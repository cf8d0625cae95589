/-
  The segments of a path, and the pages in the folder of the API.

  * `Url.delimiters`, `Url.notMem_walk`: no segment that is read holds a sign that ends a part.
  * `Url.rooted_of_parse`: a URL over HTTP has an authority and a path of segments.
  * `Url.toList_text_dropTrailingEmpty`: empty segments at the end are slashes at the end.
  * `Url.exists_child?_apiBase`: a page of the API below a URL over HTTP.
  * `Url.IsPageOf`, `Url.isPageOf_child?`: a page in the folder of the API, below any URL.
-/
import LightningLottery.Proofs.Steps
import LightningLottery.Proofs.Text.Blank
import LightningLottery.Proofs.Url.Form
import LightningLottery.Url.Parse

namespace LightningLottery

/-- The signs that end a part of a URL. -/
def Url.delimiters : List Char := ['/', '?', '#']

/-- A delimiter that must be encoded, or was not there, does not stand in an encoded text. -/
theorem Percent.notMem_encode {mustEncode : Char → Bool} {sign : Char}
    (hsign : sign ∈ Url.delimiters) {cs : List Char} (h : mustEncode sign = true ∨ sign ∉ cs) :
    sign ∉ encode mustEncode cs := by
  intro hm
  obtain ⟨c, hc, hd⟩ := List.mem_flatMap.1 hm
  split at hd
  · exact Percent.notMem_triples hd
      (List.mem_append_right ['+', '&', '='] hsign)
  · next hplain =>
    obtain rfl := List.mem_singleton.1 hd
    exact h.elim hplain fun habsent => habsent hc

namespace Url

/-! ## Segments -/

/-- No segment that `walk` reads holds a delimiter, unless the scheme is that of files: a slash was
    not there, and the others are encoded. -/
theorem notMem_walk {kind : SchemeKind} (hkind : kind ≠ .file) {sign : Char}
    (hsign : sign ∈ delimiters) {walked segments : List (List Char)}
    (hwalked : ∀ s ∈ walked, sign ∉ s)
    (hsegments : ∀ s ∈ segments, Percent.inPath sign = true ∨ sign ∉ s) :
    ∀ s ∈ walk kind walked segments, sign ∉ s := by
  induction segments generalizing walked with
  | nil =>
    intro s hs
    exact hwalked s (List.mem_reverse.1 hs)
  | cons segment segments ih =>
    obtain ⟨hsegment, hsegments⟩ := List.forall_mem_cons.1 hsegments
    have hfolder : ∀ above : List (List Char), (∀ s ∈ above, sign ∉ s) →
        ∀ s ∈ (if segments.isEmpty then [] :: above else above), sign ∉ s := by
      intro above habove
      split
      · exact List.forall_mem_cons.2 ⟨List.not_mem_nil, habove⟩
      · exact habove
    rw [walk]
    simp only
    split
    · refine ih (hfolder _ ?_) hsegments
      split
      · exact hwalked
      · exact fun s hs => hwalked s (List.mem_of_mem_tail hs)
    · split
      · exact ih (hfolder _ hwalked) hsegments
      · have hplaced : sign ∉ placed kind walked.isEmpty segment := by
          have hfile : (kind == .file) = false := beq_eq_false_iff_ne.2 hkind
          rw [placed, hfile]
          exact Percent.notMem_encode hsign hsegment
        exact ih (List.forall_mem_cons.2 ⟨hplaced, hwalked⟩) hsegments

theorem notMem_readSegments {kind : SchemeKind} (hkind : kind ≠ .file) (cs : List Char) :
    ∀ s ∈ readSegments kind cs, ∀ sign ∈ delimiters, sign ∉ s.toList := by
  intro s hs sign hsign
  obtain ⟨segment, hsegment, rfl⟩ := List.mem_map.1 hs
  rw [String.toList_ofList]
  refine @notMem_walk kind hkind sign hsign [] _ nofun (fun piece hpiece => ?_) segment hsegment
  rcases List.mem_cons.1 hsign with rfl | hother
  · rw [splitOn_eq] at hpiece
    exact Or.inr (notMem_of_mem_splitOn hpiece)
  · rcases List.mem_pair.1 hother with rfl | rfl
    · exact Or.inl (by decide)
    · exact Or.inl (by decide)

theorem readPath_special {kind : SchemeKind} (hspecial : kind.isSpecial = true) (hkind : kind ≠ .file)
    (cs : List Char) :
    ∃ segments, readPath kind cs = .rooted segments ∧
      ∀ s ∈ segments, ∀ sign ∈ delimiters, sign ∉ s.toList := by
  cases cs with
  | nil =>
    refine ⟨[""], ?_, List.forall_mem_singleton.2 fun _ _ => List.not_mem_nil⟩
    rw [readPath, if_pos hspecial]
  | cons c cs => exact ⟨_, rfl, notMem_readSegments hkind _⟩

theorem kind_of_isHttp {u : Url} (h : u.isHttp = true) :
    ∃ port, SchemeKind.of u.scheme = .special port := by
  rw [isHttp, Bool.or_eq_true, beq_iff_eq, beq_iff_eq] at h
  rcases h with h | h
  · exact ⟨80, by rw [h]; rfl⟩
  · exact ⟨443, by rw [h]; rfl⟩

/-- A URL over HTTP is read as an authority and a path behind it. -/
theorem exists_read_of_parse {given : String} {u : Url} (h : parse given = .ok u)
    (hhttp : u.isHttp = true) :
    ∃ port cs authority rest path, readAuthority (.special port) cs = .ok (authority, rest) ∧
      u.authority = some authority ∧ u.path = readPath (.special port) path := by
  obtain ⟨port, hport⟩ := kind_of_isHttp hhttp
  unfold parse at h
  split at h
  · cases h
  · next scheme rest _ =>
    obtain ⟨place, hplace, hu⟩ := bind_eq_ok_iff.1 h
    have hscheme : u.scheme = scheme := by cases hu; rfl
    rw [hscheme] at hport
    rw [hport] at hplace
    obtain ⟨⟨authority, after⟩, hauthority, hclose⟩ := bind_eq_ok_iff.1 hplace
    cases hclose
    cases hu
    exact ⟨port, _, authority, after, _, hauthority, rfl, rfl⟩

/-- **A URL over HTTP has an authority and a path of segments**, which hold no delimiters. -/
theorem rooted_of_parse {given : String} {u : Url} (h : parse given = .ok u)
    (hhttp : u.isHttp = true) :
    (∃ authority, u.authority = some authority) ∧
      ∃ segments, u.path = .rooted segments ∧
        ∀ s ∈ segments, ∀ sign ∈ delimiters, sign ∉ s.toList := by
  obtain ⟨port, -, authority, -, path, -, hauthority, hpath⟩ := exists_read_of_parse h hhttp
  rw [hpath]
  exact ⟨⟨authority, hauthority⟩, @readPath_special (.special port) rfl nofun path⟩

/-! ## Pages of the API -/

theorem toList_text_rooted (segments : List String) :
    (UrlPath.rooted segments).text.toList = segments.flatMap fun s => '/' :: s.toList := by
  have hjoin : ∀ parts : List String, (String.join parts).toList = parts.flatMap String.toList := by
    intro parts
    induction parts with
    | nil => rfl
    | cons part parts ih => rw [String.join_cons, String.toList_append, ih, List.flatMap_cons]
  rw [UrlPath.text, hjoin, List.flatMap_map]
  simp only [String.toList_append]
  rfl

theorem dropTrailingEmpty_concat (segments : List String) (s : String) :
    dropTrailingEmpty (segments ++ [s]) =
      if s.isEmpty then dropTrailingEmpty segments else segments ++ [s] := by
  rw [dropTrailingEmpty, List.reverse_append, List.reverse_singleton, List.singleton_append,
    List.dropWhile_cons]
  split
  · rfl
  · rw [List.reverse_cons, List.reverse_reverse]

/-- **Empty segments at the end are slashes at the end.** -/
theorem toList_text_dropTrailingEmpty {segments : List String}
    (h : ∀ s ∈ segments, '/' ∉ s.toList) :
    (UrlPath.rooted (dropTrailingEmpty segments)).text.toList =
      dropWhileRight (· == '/') (UrlPath.rooted segments).text.toList := by
  simp only [toList_text_rooted]
  induction segments using List.reverseRecOn with
  | nil => rfl
  | append_singleton segments s ih =>
    obtain ⟨hsegments, hs⟩ := List.forall_mem_append.1 h
    rw [dropTrailingEmpty_concat, List.flatMap_append, List.flatMap_singleton]
    by_cases hempty : s.isEmpty = true
    · rw [if_pos hempty, ih hsegments, String.isEmpty_iff.1 hempty, dropWhileRight_eq,
        dropWhileRight_eq]
      exact (List.rdropWhile_concat_pos _ _ _ rfl).symm
    · -- the last character of a segment is no slash
      rw [if_neg hempty, List.flatMap_append, List.flatMap_singleton, dropWhileRight_eq, eq_comm,
        List.rdropWhile_eq_self_iff]
      intro hne hlast
      have hchars : s.toList ≠ [] := fun he => hempty (String.isEmpty_iff.2 (String.toList_eq_nil_iff.1 he))
      rw [List.getLast_append_of_ne_nil _ (List.cons_ne_nil _ _), List.getLast_cons hchars,
        beq_iff_eq] at hlast
      exact hs s List.mem_cons_self (hlast ▸ List.getLast_mem hchars)

/-- **A page of the API below a URL over HTTP**: its path is that of the URL without slashes at the
    end, then the folder of the API and the page. -/
theorem exists_child?_apiBase {given : String} {u : Url} (h : parse given = .ok u)
    (hhttp : u.isHttp = true) (page : List String) :
    ∃ child, u.apiBase.child? page = .ok child ∧ child.scheme = u.scheme ∧
      child.authority = u.authority ∧ child.query = none ∧ child.fragment = none ∧
      child.path.text =
        String.ofList (dropWhileRight (· == '/') u.path.text.toList) ++
          (UrlPath.rooted ("api" :: page)).text := by
  obtain ⟨-, segments, hpath, hfree⟩ := rooted_of_parse h hhttp
  have hslash : ∀ s ∈ segments, '/' ∉ s.toList := fun s hs => hfree s hs '/' List.mem_cons_self
  obtain ⟨port, hport⟩ := kind_of_isHttp hhttp
  have hfolder : u.apiBase.path = .rooted (dropTrailingEmpty segments ++ ["api", ""]) := by
    rw [apiBase, hpath, hport]
    rfl
  have hlast : (dropTrailingEmpty segments ++ ["api", ""]).dropLast ++ page =
      dropTrailingEmpty segments ++ "api" :: page := by
    rw [List.dropLast_append_of_ne_nil (List.cons_ne_nil _ _), List.append_assoc]
    rfl
  let path := UrlPath.rooted (dropTrailingEmpty segments ++ "api" :: page)
  refine ⟨⟨u.scheme, u.authority, u.authority.isNone && path.startsEmpty, path, none, none⟩, ?_, rfl,
    rfl, rfl, rfl, ?_⟩
  · rw [child?, hfolder]
    simp only [hlast]
    rfl
  · rw [hpath, ← String.toList_inj, String.toList_append, String.toList_ofList,
      ← toList_text_dropTrailingEmpty hslash]
    simp only [path, toList_text_rooted, List.flatMap_append]

/-! ## Pages in a folder -/

/-- A page in a folder: its path is that of the folder, and then the page. -/
structure IsPageOf (url folder : Url) (page : String) : Prop where
  scheme_eq : url.scheme = folder.scheme
  authority_eq : url.authority = folder.authority
  path_eq : url.path.text = folder.path.text ++ page
  fragment_eq : url.fragment = none

theorem apiFolder_rooted (kind : SchemeKind) (segments : List String) :
    ∃ front, apiFolder kind (.rooted segments) = .rooted (front ++ [""]) := by
  have hfolder : dropTrailingEmpty segments ++ ["api", ""] =
      (dropTrailingEmpty segments ++ ["api"]) ++ [""] := (List.append_assoc _ ["api"] [""]).symm
  rw [apiFolder]
  simp only [hfolder]
  split
  · -- only the first segment may be a drive, and the empty one is the last of at least two
    cases dropTrailingEmpty segments with
    | nil => exact ⟨[_], rfl⟩
    | cons first segments => exact ⟨_ :: (segments ++ ["api"]), rfl⟩
  · exact ⟨_, rfl⟩

theorem apiFolder_rootless (kind : SchemeKind) (text : String) :
    ∃ text', apiFolder kind (.rootless text) = .rootless text' := by
  rw [apiFolder]
  split <;> exact ⟨_, rfl⟩

theorem isPageOf_child? {u url : Url} {page : String} (h : u.apiBase.child? [page] = .ok url) :
    url.IsPageOf u.apiBase page := by
  have hbase : u.apiBase.path = apiFolder (.of u.scheme) u.path := rfl
  cases hpath : u.path with
  | rootless text =>
    obtain ⟨text', htext⟩ := apiFolder_rootless (.of u.scheme) text
    rw [hpath, htext] at hbase
    rw [child?, hbase] at h
    cases h
  | rooted segments =>
    obtain ⟨front, hfront⟩ := apiFolder_rooted (.of u.scheme) segments
    rw [hpath, hfront] at hbase
    rw [child?, hbase] at h
    cases h
    refine ⟨rfl, rfl, ?_, rfl⟩
    rw [hbase, ← String.toList_inj, String.toList_append]
    simp only [toList_text_rooted, List.dropLast_concat, List.flatMap_append, List.flatMap_singleton,
      List.append_assoc]
    rfl

end Url
end LightningLottery
