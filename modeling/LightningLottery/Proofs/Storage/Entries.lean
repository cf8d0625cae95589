/-
  What stands where in a file system, and what single steps change of it.

  * `FileSystem.entry?_put_of_ne`, `FileSystem.entry?_erase_of_ne`: a change at one path is seen at
    no other.
  * `FileSystem.AlikeOff`: two file systems that differ at one path at most.
  * `FileSystem.resolve_child_mono`: a way ends where it did as long as directories stay directories.
  * `FileSystem.of_apply_create` and its like: what a step needs, and all that it does.
-/
import LightningLottery.Proofs.Steps
import LightningLottery.Storage.FileSystem
import Mathlib.Data.List.Basic

namespace LightningLottery.FileSystem

variable {fs fs' : FileSystem} {p q : Path}

/-! ## Paths -/

theorem lookup_filter_ne {l : List (Path × Entry)} (h : q ≠ p) :
    (l.filter (·.1 != p)).lookup q = l.lookup q := by
  induction l with
  | nil => rfl
  | cons e l ih =>
    obtain ⟨path, entry⟩ := e
    rw [List.filter_cons]
    split
    · rw [List.lookup_cons, List.lookup_cons, ih]
    · next hne =>
      have hpath : path = p := by simpa using hne
      have hq : (q == path) = false := by simpa [hpath] using h
      rw [ih, List.lookup_cons, hq]

theorem entry?_put_of_ne (h : q ≠ p) (entry : Entry) :
    FileSystem.entry? (fs.put p entry) q = fs.entry? q := by
  have hq : (q == p) = false := by simpa using h
  simp only [ entry?, put, List.lookup_cons, hq, lookup_filter_ne h]

theorem entry?_erase_of_ne (h : q ≠ p) : FileSystem.entry? (fs.erase p) q = fs.entry? q := by
  simp only [ entry?, erase, lookup_filter_ne h]

/-- What is put at a path stands there, unless a directory above the root does. -/
theorem entry?_put_self (h : fs.isDirectory p = false) (entry : Entry) :
    FileSystem.entry? (fs.put p entry) p = some entry := by
  unfold isDirectory at h
  unfold entry? at h ⊢
  split
  · next habove => rw [if_pos habove] at h; cases h
  · simp only [put, List.lookup_cons, beq_self_eq_true]

/-- Nothing stands at a path that was erased, unless it is a directory above the root. -/
theorem entry?_erase_self (h : fs.isDirectory p = false) :
    FileSystem.entry? (fs.erase p) p = none := by
  unfold isDirectory at h
  unfold entry? at h ⊢
  split
  · next habove => rw [if_pos habove] at h; cases h
  · rw [erase, List.lookup_eq_none_iff]
    intro e hm
    have hne : e.1 ≠ p := by simpa using (List.mem_filter.1 hm).2
    exact bne_iff_ne.2 hne.symm

/-- Two file systems that differ at one path at most. -/
def AlikeOff (p : Path) (fs fs' : FileSystem) : Prop := ∀ q, q ≠ p → fs'.entry? q = fs.entry? q

theorem AlikeOff.refl (p : Path) (fs : FileSystem) : AlikeOff p fs fs := fun _ _ => rfl

theorem AlikeOff.trans {fs₁ fs₂ fs₃ : FileSystem} (h : AlikeOff p fs₁ fs₂)
    (h' : AlikeOff p fs₂ fs₃) : AlikeOff p fs₁ fs₃ :=
  fun q hq => (h' q hq).trans (h q hq)

theorem AlikeOff.put (p : Path) (fs : FileSystem) (entry : Entry) :
    AlikeOff p fs (fs.put p entry) := fun _ hq => entry?_put_of_ne hq entry

theorem AlikeOff.isDirectory (h : AlikeOff p fs fs') (hq : q ≠ p) :
    fs'.isDirectory q = fs.isDirectory q := by
  rw [FileSystem.isDirectory, h q hq, FileSystem.isDirectory]

theorem AlikeOff.erase (p : Path) (fs : FileSystem) : AlikeOff p fs (fs.erase p) :=
  fun _ hq => entry?_erase_of_ne hq

theorem AlikeOff.mono (h : AlikeOff p fs fs') (hp : fs.isDirectory p = false) (q : Path)
    (hq : fs.isDirectory q = true) : fs'.isDirectory q = true := by
  have hne : q ≠ p := by
    rintro rfl
    rw [hp] at hq
    cases hq
  rw [h.isDirectory hne, hq]

/-! ## What stands in the way -/

theorem take_ne {i : Nat} (h : i < q.length) (hlength : p.length = q.length) : q.take i ≠ p := by
  intro heq
  have hlen := congrArg List.length heq
  rw [List.length_take] at hlen
  omega

theorem AlikeOff.obstacle? (h : AlikeOff p fs fs') (hlength : p.length = q.length) :
    fs'.obstacle? q = fs.obstacle? q := by
  unfold FileSystem.obstacle?
  rw [← List.head?_filterMap, ← List.head?_filterMap]
  refine congrArg List.head? (List.filterMap_congr fun above hm => ?_)
  obtain ⟨i, hi, rfl⟩ := List.mem_map.1 hm
  rw [h _ (take_ne (List.mem_range.1 hi) hlength)]

/-- A file reads the same if nothing changes but what stands beside it. -/
theorem AlikeOff.read (h : AlikeOff p fs fs') (hlength : p.length = q.length) (hq : q ≠ p) :
    fs'.read q = fs.read q := by
  simp only [FileSystem.read, find, h.obstacle? hlength, h q hq]

/-! ## Ways -/

theorem walk_mono (h : ∀ q, fs.isDirectory q = true → fs'.isDirectory q = true) {steps : List Step}
    {here path : Path} (hwalk : fs.walk here steps = .ok path) :
    fs'.walk here steps = .ok path := by
  induction steps generalizing here with
  | nil => exact hwalk
  | cons step steps ih =>
    have hstays : ∀ {isPrivate}, fs.entry? here = some (.directory isPrivate) →
        ∃ isPrivate', fs'.entry? here = some (.directory isPrivate') := by
      intro isPrivate hdir
      have hthere := h here (by rw [isDirectory, hdir])
      unfold isDirectory at hthere
      split at hthere
      · next hdir' => exact ⟨_, hdir'⟩
      · cases hthere
    unfold walk at hwalk ⊢
    split at hwalk
    · cases hwalk
    · cases hwalk
    · next hdir =>
      obtain ⟨isPrivate', hdir'⟩ := hstays hdir
      rw [hdir']
      cases step with
      | here => exact ih hwalk
      | above => exact ih hwalk
      | name text =>
        simp only at hwalk ⊢
        split at hwalk
        · cases hwalk
        · next hshort =>
          rw [if_neg hshort]
          exact ih hwalk

theorem exists_of_walk_name {steps : List Step} {name : String} {here path : Path}
    (h : fs.walk here (steps ++ [.name name]) = .ok path) :
    ∃ folder, fs.walk here steps = .ok folder ∧ path = folder ++ [name] := by
  induction steps generalizing here with
  | nil =>
    rw [List.nil_append, walk] at h
    split at h
    · cases h
    · cases h
    · split at h
      · cases h
      · cases h
        exact ⟨here, rfl, rfl⟩
  | cons step steps ih =>
    rw [List.cons_append] at h
    unfold walk at h ⊢
    split at h
    · cases h
    · cases h
    · next hdir =>
      cases step with
      | here => exact ih h
      | above => exact ih h
      | name text =>
        simp only at h ⊢
        split at h
        · cases h
        · next hshort =>
          rw [if_neg hshort]
          exact ih h

theorem walk_append (here : Path) (steps steps' : List Step) :
    fs.walk here (steps ++ steps') =
      (fs.walk here steps).bind fun there => fs.walk there steps' := by
  induction steps generalizing here with
  | nil => rfl
  | cons step steps ih =>
    simp only [List.cons_append, walk]
    cases fs.entry? here with
    | none => rfl
    | some entry =>
      cases entry with
      | file content => rfl
      | directory isPrivate =>
        cases step with
        | here => exact ih _
        | above => exact ih _
        | name text =>
          simp only
          split
          · rfl
          · exact ih _

/-- Walking to another name in the same directory ends in the same folder. -/
theorem walk_name_sibling {steps : List Step} {name name' : String} {here path : Path}
    (h : fs.walk here (steps ++ [.name name]) = .ok path)
    (hshort : name'.utf8ByteSize ≤ maxName) :
    ∃ folder, path = folder ++ [name] ∧
      fs.walk here (steps ++ [.name name']) = .ok (folder ++ [name']) := by
  obtain ⟨folder, hfolder, rfl⟩ := exists_of_walk_name h
  refine ⟨folder, rfl, ?_⟩
  rw [walk_append, hfolder] at h ⊢
  simp only [Except.bind, walk] at h ⊢
  split at h
  · cases h
  · cases h
  · rw [if_neg (Nat.not_lt.2 hshort)]

theorem resolve_child_eq_ok_iff {route : Route} {name : String} {path : Path} :
    fs.resolve (route.child name) = .ok path ↔
      textFault? (route.child name) = none ∧
        fs.walk [] (route.steps ++ [.name name]) = .ok path := by
  unfold resolve
  cases textFault? (route.child name) with
  | some fault => exact ⟨nofun, nofun⟩
  | none =>
    have hsteps : (route.child name).steps = route.steps ++ [.name name] := rfl
    have hfolder : (route.child name).isFolder = false := rfl
    rw [hsteps, hfolder]
    cases fs.walk [] (route.steps ++ [.name name]) with
    | error fault => exact ⟨nofun, nofun⟩
    | ok path' =>
      simp only [true_and, bind, Except.bind, pure, Except.pure, Bool.false_eq_true, if_false]
      split
      · exact Iff.rfl
      · exact Iff.rfl

/-- **A way to a name ends where it did** as long as directories stay directories. -/
theorem resolve_child_mono (h : ∀ q, fs.isDirectory q = true → fs'.isDirectory q = true)
    {route : Route} {name : String} {path : Path}
    (hresolve : fs.resolve (route.child name) = .ok path) :
    fs'.resolve (route.child name) = .ok path := by
  obtain ⟨htext, hwalk⟩ := resolve_child_eq_ok_iff.1 hresolve
  exact resolve_child_eq_ok_iff.2 ⟨htext, walk_mono h hwalk⟩

/-- What stands above two names in one directory stands in the way of both. -/
theorem obstacle?_sibling (folder : Path) (name name' : String) :
    fs.obstacle? (folder ++ [name]) = fs.obstacle? (folder ++ [name']) := by
  have habove (n : String) :
      (List.range (folder ++ [n]).length).map (folder ++ [n]).take =
        (List.range (folder.length + 1)).map folder.take := by
    rw [List.length_append, List.length_singleton]
    refine List.map_congr_left fun i hi => ?_
    exact List.take_append_of_le_length (Nat.le_of_lt_succ (List.mem_range.1 hi))
  rw [FileSystem.obstacle?, FileSystem.obstacle?, habove, habove]

/-! ## Steps of writing a file -/

theorem find_eq_ok_iff {entry : Entry} :
    fs.find p = .ok entry ↔ fs.obstacle? p = none ∧ fs.entry? p = some entry := by
  unfold find
  split <;> simp_all

theorem read_eq_ok_iff {content : Bytes} :
    fs.read p = .ok content ↔ fs.obstacle? p = none ∧ fs.entry? p = some (.file content) := by
  rw [← find_eq_ok_iff]
  unfold read
  split <;> simp_all

theorem read_put_self (hreach : fs.obstacle? p = none) (h : fs.isDirectory p = false)
    (content : Bytes) : (fs.put p (.file content)).read p = .ok content := by
  refine read_eq_ok_iff.2 ⟨?_, entry?_put_self h _⟩
  rw [(AlikeOff.put p fs _).obstacle? rfl, hreach]

theorem isDirectory_of_read {content : Bytes} (h : fs.read p = .ok content) :
    fs.isDirectory p = false := by
  rw [isDirectory, (read_eq_ok_iff.1 h).2]

theorem of_apply_create (h : fs.apply (.create p) = .ok fs') :
    fs.obstacle? p = none ∧ fs.isDirectory p = false ∧ fs' = fs.put p (.file []) := by
  simp only [apply] at h
  split at h
  · cases h
  · next content hfound =>
    cases h
    obtain ⟨hreach, hentry⟩ := find_eq_ok_iff.1 hfound
    exact ⟨hreach, by rw [isDirectory, hentry], rfl⟩
  · next fault hfound =>
    split at h
    · next hreach =>
      cases h
      have hreach := Option.isNone_iff_eq_none.1 hreach
      refine ⟨hreach, ?_, rfl⟩
      -- what is in reach and cannot be found is not there
      have hentry : fs.entry? p = none := by
        cases hentry : fs.entry? p with
        | none => rfl
        | some entry => rw [find_eq_ok_iff.2 ⟨hreach, hentry⟩] at hfound; cases hfound
      rw [isDirectory, hentry]
    · cases h

theorem apply_create (hreach : fs.obstacle? p = none) (h : fs.isDirectory p = false) :
    fs.apply (.create p) = .ok (fs.put p (.file [])) := by
  have hfind : ∀ isPrivate, fs.find p ≠ .ok (.directory isPrivate) := by
    intro isPrivate hfound
    rw [isDirectory, (find_eq_ok_iff.1 hfound).2] at h
    cases h
  simp only [apply, hreach, Option.isNone_none, if_true]
  split
  · next isPrivate hfound => exact absurd hfound (hfind isPrivate)
  · rfl
  · rfl

theorem of_apply_append {piece : Bytes} (h : fs.apply (.append p piece) = .ok fs') :
    ∃ content, fs.read p = .ok content ∧ fs' = fs.put p (.file (content ++ piece)) := by
  simp only [apply] at h
  split at h
  · next content hread =>
    cases h
    exact ⟨content, hread, rfl⟩
  · cases h

theorem apply_append {content : Bytes} (h : fs.read p = .ok content) (piece : Bytes) :
    fs.apply (.append p piece) = .ok (fs.put p (.file (content ++ piece))) := by
  simp only [apply, h]

theorem of_apply_sync (h : fs.apply (.sync p) = .ok fs') : fs' = fs := by
  simp only [apply] at h
  cases hread : fs.read p with
  | error fault => rw [hread] at h; cases h
  | ok content => rw [hread] at h; cases h; rfl

theorem apply_sync {content : Bytes} (h : fs.read p = .ok content) :
    fs.apply (.sync p) = .ok fs := by
  rw [apply, h]
  rfl

theorem of_apply_rename (h : fs.apply (.rename p q) = .ok fs') :
    ∃ content, fs.read p = .ok content ∧ fs.obstacle? q = none ∧ fs.isDirectory q = false ∧
      fs' = (fs.erase p).put q (.file content) := by
  simp only [apply] at h
  split at h
  · cases h
  · cases h
  · cases h
  · next content hcontent hreach hentry =>
    cases h
    refine ⟨content, hcontent, hreach, ?_, rfl⟩
    unfold isDirectory
    split
    · next isPrivate hdir => exact absurd hdir (hentry isPrivate)
    · rfl

theorem apply_rename {content : Bytes} (h : fs.read p = .ok content)
    (hreach : fs.obstacle? q = none) (hfile : fs.isDirectory q = false) :
    fs.apply (.rename p q) = .ok ((fs.erase p).put q (.file content)) := by
  simp only [apply, h, hreach]
  split
  · next hfault => cases hfault
  · next hfault => cases hfault
  · next hentry => rw [isDirectory, hentry] at hfile; cases hfile
  · next hcontent _ _ => cases hcontent; rfl

end LightningLottery.FileSystem
