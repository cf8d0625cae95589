/-
  The nouns of the bundled pool of nicknames, in their order.
-/

namespace LightningLottery.Nickname

/-- The bundled nouns. -/
def nouns : List String :=
  ["Abacus", "Acorn", "Actor", "Admiral", "Agent", "Alchemist", "Almond", "Anchor", "Angel",
   "Antelope", "Anvil", "Apple", "Apricot", "Archer", "Architect", "Arrow", "Artist", "Astronaut",
   "Atlas", "Aurora", "Avocado", "Axe", "Badger", "Baker", "Balloon", "Bamboo", "Banana", "Bandit",
   "Banjo", "Baron", "Basil", "Beacon", "Bear", "Beaver", "Bee", "Beetle", "Bell", "Berry",
   "Bishop", "Bison", "Blossom", "Boat", "Bobcat", "Bolt", "Bonsai", "Booth", "Boulder", "Bramble",
   "Bridge", "Brook", "Buffalo", "Builder", "Bunny", "Butler", "Butterfly", "Cabin", "Cactus",
   "Camel", "Canary", "Candle", "Canyon", "Captain", "Cardinal", "Carpenter", "Castle", "Cat",
   "Cedar", "Cello", "Chamber", "Champion", "Cheetah", "Chef", "Cherry", "Chestnut", "Chimney",
   "Cipher", "Citadel", "Clam", "Cliff", "Clock", "Clover", "Cobra", "Coconut", "Comet", "Compass",
   "Condor", "Coral", "Cougar", "Courier", "Coyote", "Crab", "Crane", "Cricket", "Crow", "Crystal",
   "Cypress", "Dancer", "Deer", "Delta", "Desert", "Diamond", "Diver", "Doctor", "Dolphin",
   "Donkey", "Dove", "Dragon", "Drum", "Duck", "Dune", "Eagle", "Echo", "Eel", "Elephant", "Elk",
   "Ember", "Emperor", "Engine", "Engineer", "Explorer", "Falcon", "Farmer", "Feather", "Fern",
   "Ferret", "Fiddle", "Finch", "Firefly", "Fisher", "Flame", "Flamingo", "Forest", "Fox", "Frog",
   "Galaxy", "Gardener", "Gazelle", "Gecko", "Geyser", "Giraffe", "Glacier", "Gnome", "Goat",
   "Goblin", "Goose", "Gorilla", "Grape", "Griffin", "Guitar", "Gull", "Hammer", "Harbor", "Hare",
   "Harp", "Hawk", "Hedgehog", "Heron", "Hippo", "Hornet", "Horse", "Hunter", "Ibis", "Iceberg",
   "Iguana", "Inscrutability", "Inventor", "Island", "Jackal", "Jaguar", "Jasmine", "Jellyfish",
   "Jester", "Jewel", "Journey", "Judge", "Juggler", "Kangaroo", "Kayak", "Kernel", "Kestrel",
   "Kettle", "Kiwi", "Knight", "Koala", "Ladder", "Lagoon", "Lantern", "Lark", "Lemon", "Lemur",
   "Leopard", "Librarian", "Lighthouse", "Lily", "Lion", "Lizard", "Llama", "Lobster", "Locksmith",
   "Lotus", "Lynx", "Magnet", "Magpie", "Mango", "Mantis", "Maple", "Marble", "Mariner", "Marten",
   "Meadow", "Mermaid", "Meteor", "Miner", "Minnow", "Mole", "Monk", "Moose", "Moth", "Mountain",
   "Mouse", "Mule", "Narwhal", "Nebula", "Needle", "Nest", "Newt", "Nightingale", "Ninja", "Nomad",
   "Nutmeg", "Oak", "Oasis", "Ocean", "Octopus", "Olive", "Omen", "Onion", "Opal", "Orbit", "Orca",
   "Orchid", "Osprey", "Ostrich", "Otter", "Owl", "Oyster", "Paddle", "Painter", "Palace", "Panda",
   "Panther", "Parrot", "Peach", "Peacock", "Pebble", "Pelican", "Penguin", "Pepper", "Phoenix",
   "Pilot", "Pine", "Pioneer", "Pirate", "Planet", "Poet", "Pony", "Poplar", "Prairie", "Prism",
   "Puffin", "Puma", "Pumpkin", "Quail", "Quarry", "Quartz", "Quasar", "Queen", "Quill", "Rabbit",
   "Raccoon", "Radar", "Rainbow", "Ranger", "Raven", "Reef", "Rhino", "Ribbon", "River", "Robin",
   "Rocket", "Rover", "Ruler", "Sage", "Sailor", "Salmon", "Satellite", "Scholar", "Scout", "Seal",
   "Shadow", "Shark", "Shepherd", "Ship", "Signal", "Skater", "Sloth", "Snail", "Sophomore",
   "Sparrow", "Sphinx", "Spider", "Spruce", "Squid", "Squirrel", "Stag", "Star", "Storm", "Summit",
   "Swan", "Sword", "Tablet", "Tamarind", "Tiger", "Tinker", "Toad", "Tornado", "Tortoise",
   "Toucan", "Tower", "Trader", "Traveler", "Trout", "Trumpet", "Tulip", "Tundra", "Turtle",
   "Umbrella", "Unicorn", "Urchin", "Valley", "Viking", "Violin", "Viper", "Voyager", "Vulture",
   "Walrus", "Wanderer", "Warden", "Wasp", "Weasel", "Whale", "Willow", "Wizard", "Wolf", "Wombat",
   "Wren", "Yak", "Yeti", "Zebra", "Zephyr", "Zenith"]

end LightningLottery.Nickname
