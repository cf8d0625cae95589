/-
  The adjectives of the bundled pool of nicknames, in their order.
-/

namespace LightningLottery.Nickname

/-- The bundled adjectives. -/
def adjectives : List String :=
  ["Able", "Absent", "Absolute", "Abstract", "Abundant", "Academic", "Accurate", "Active",
   "Actual", "Adept", "Adorable", "Advanced", "Agile", "Airy", "Alert", "Alive", "Amber", "Ample",
   "Ancient", "Angry", "Anxious", "Aqua", "Arctic", "Ardent", "Artful", "Astute", "Atomic",
   "Audible", "Autumn", "Avid", "Awake", "Azure", "Bashful", "Beaming", "Benign", "Better", "Big",
   "Binary", "Bitter", "Blazing", "Bleak", "Blissful", "Blue", "Bold", "Bouncy", "Brave", "Breezy",
   "Brief", "Bright", "Brisk", "Broad", "Bronze", "Brown", "Bubbly", "Busy", "Calm", "Candid",
   "Capable", "Careful", "Casual", "Celestial", "Certain", "Charming", "Cheerful", "Chief",
   "Chilly", "Civic", "Classic", "Clean", "Clear", "Clever", "Cloudy", "Coastal", "Cobalt", "Cold",
   "Comic", "Common", "Cosmic", "Cozy", "Crafty", "Crimson", "Crisp", "Curious", "Cyber", "Dapper",
   "Daring", "Dark", "Dazzling", "Decent", "Deep", "Delicate", "Dense", "Digital", "Diligent",
   "Direct", "Distant", "Divine", "Dizzy", "Dormant", "Dreamy", "Dusty", "Dynamic", "Eager",
   "Early", "Earnest", "Easy", "Eclectic", "Elastic", "Elder", "Electric", "Elegant", "Eleventh",
   "Emerald", "Eminent", "Endless", "Epic", "Equal", "Eternal", "Even", "Exact", "Exotic",
   "Expert", "Fabled", "Fair", "Faithful", "Famous", "Fancy", "Fast", "Fearless", "Feisty",
   "Fierce", "Fiery", "First", "Flying", "Fond", "Formal", "Fragrant", "Frank", "Free", "Fresh",
   "Friendly", "Frosty", "Frugal", "Funny", "Fuzzy", "Gallant", "Gentle", "Genuine", "Giant",
   "Gifted", "Gilded", "Giving", "Glad", "Glossy", "Golden", "Graceful", "Grand", "Grateful",
   "Green", "Grumpy", "Handy", "Happy", "Hardy", "Harmonic", "Hasty", "Healthy", "Hearty", "Heavy",
   "Helpful", "Hidden", "Hollow", "Honest", "Hopeful", "Humble", "Hungry", "Icy", "Ideal", "Idle",
   "Immense", "Indigo", "Infinite", "Inner", "Inspired", "Intense", "Ivory", "Jade", "Jazzy",
   "Jolly", "Jovial", "Joyful", "Juicy", "Keen", "Kind", "Kinetic", "Knowing", "Large", "Last",
   "Lavish", "Lazy", "Legal", "Level", "Light", "Likely", "Limber", "Little", "Lively", "Local",
   "Lofty", "Logical", "Lone", "Loud", "Loyal", "Lucid", "Lucky", "Lunar", "Magic", "Main",
   "Major", "Majestic", "Marine", "Mellow", "Merry", "Mighty", "Mild", "Minor", "Misty", "Modern",
   "Modest", "Molten", "Moral", "Mystic", "Narrow", "Native", "Nautical", "Near", "Neat",
   "Nervous", "Nimble", "Noble", "Nocturnal", "Normal", "Novel", "Oaken", "Obvious", "Odd",
   "Olive", "Omega", "One", "Onyx", "Open", "Optimal", "Orange", "Orbital", "Outer", "Pale",
   "Patient", "Peaceful", "Perfect", "Plain", "Playful", "Pleasant", "Plucky", "Polar", "Polite",
   "Precise", "Primal", "Prime", "Private", "Proud", "Purple", "Quick", "Quiet", "Quirky",
   "Radiant", "Rapid", "Rare", "Ready", "Real", "Regal", "Remote", "Rich", "Rigid", "Ripe",
   "Rising", "Robust", "Rocky", "Rosy", "Royal", "Ruby", "Rustic", "Sacred", "Safe", "Sandy",
   "Scarlet", "Secret", "Serene", "Sharp", "Shiny", "Silent", "Silky", "Silver", "Simple",
   "Sincere", "Sleek", "Sleepy", "Slim", "Smart", "Smooth", "Snowy", "Social", "Solar", "Solid",
   "Sonic", "Spare", "Sparkling", "Speedy", "Spicy", "Spiral", "Steady", "Stellar", "Still",
   "Stormy", "Strong", "Sturdy", "Subtle", "Successful", "Sunny", "Super", "Supreme", "Swift",
   "Tall", "Tame", "Tender", "Thankful", "Thirsty", "Tidy", "Tiny", "Tired", "Topaz", "Total",
   "Tough", "Tranquil", "Tribal", "Tropical", "True", "Trusty", "Twin", "Ultra", "Unique",
   "United", "Upbeat", "Urban", "Useful", "Vague", "Valiant", "Valid", "Vast", "Velvet", "Violet",
   "Virtual", "Vital", "Vivid", "Vocal", "Warm", "Wary", "Wealthy", "Wild", "Windy", "Wise",
   "Witty", "Wooden", "Worthy", "Young", "Youthful", "Zany", "Zealous", "Zesty"]

end LightningLottery.Nickname
