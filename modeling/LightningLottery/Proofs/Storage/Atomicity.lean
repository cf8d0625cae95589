/-
  A save replaces the record at once or not at all.

  * `FileSystem.ChangedOnly`: nothing changed but the file at one path, and directories stayed
    directories; `FileSystem.changedOnly_run`: steps that write one file change nothing else.
  * `FileSystem.run_concat`, `FileSystem.run_eq_ok`: what the last step of a run adds, and when all
    steps are taken.
  * `RecordFile.run_saveOps_eq_ok_iff`: what the steps of a save need.
  * `RecordFile.stage`: what the file system is like when some steps of a save were taken.
  * `RecordFile.saveBy_eq_ok_iff`: a save succeeds exactly where draft and record can be reached and
    no step is made to fail.
  * `RecordFile.save_atomic`: at every stage the record is the one before, until the last step puts
    the whole new content in its place.
-/
import LightningLottery.Proofs.Storage.Answers

namespace LightningLottery

/-- Steps that write the file at one path, and move nothing. -/
def FileOp.Writes (p : Path) : FileOp → Prop
  | .create q | .append q _ | .sync q => q = p
  | .rename _ _ => False

namespace FileSystem

variable {fs fs' next : FileSystem} {p draft record : Path} {op : FileOp} {ops : List FileOp}

/-! ## Steps that write one file -/

/-- Nothing changed but what stands at one path, and directories are still directories. -/
structure ChangedOnly (p : Path) (fs fs' : FileSystem) : Prop where
  alike : AlikeOff p fs fs'
  directories : ∀ q, fs.isDirectory q = true → fs'.isDirectory q = true

theorem ChangedOnly.refl (p : Path) (fs : FileSystem) : ChangedOnly p fs fs :=
  ⟨.refl p fs, fun _ hq => hq⟩

theorem ChangedOnly.trans (h : ChangedOnly p fs next) (h' : ChangedOnly p next fs') :
    ChangedOnly p fs fs' :=
  ⟨h.alike.trans h'.alike, fun q hq => h'.directories q (h.directories q hq)⟩

theorem ChangedOnly.put (h : fs.isDirectory p = false) (entry : Entry) :
    ChangedOnly p fs (fs.put p entry) :=
  ⟨.put p fs entry, (AlikeOff.put p fs entry).mono h⟩

/-- **One step of writing a file changes that file only.** -/
theorem changedOnly_apply (hop : op.Writes p) (h : fs.apply op = .ok next) :
    ChangedOnly p fs next := by
  cases op with
  | create q =>
    obtain rfl : q = p := hop
    obtain ⟨-, hfile, rfl⟩ := of_apply_create h
    exact .put hfile _
  | append q piece =>
    obtain rfl : q = p := hop
    obtain ⟨content, hread, rfl⟩ := of_apply_append h
    exact .put (isDirectory_of_read hread) _
  | sync q =>
    obtain rfl := of_apply_sync h
    exact .refl p next
  | rename source target => exact hop.elim

/-- **A run of such steps changes that file only.** -/
theorem changedOnly_run (fails : Nat → Option FileFault) (i : Nat)
    (hops : ∀ op ∈ ops, op.Writes p) : ChangedOnly p fs (fs.run fails i ops).1 := by
  induction ops generalizing fs i with
  | nil => exact .refl p fs
  | cons op ops ih =>
    obtain ⟨hop, hrest⟩ := List.forall_mem_cons.1 hops
    rcases fs.run_cons fails i op ops with ⟨fault, hrun⟩ | ⟨next, happly, hrun⟩
    · rw [hrun]
      exact .refl p fs
    · rw [hrun]
      exact (changedOnly_apply hop happly).trans (ih (i + 1) hrest)

/-! ## Runs -/

theorem run_concat (fs : FileSystem) (fails : Nat → Option FileFault) (i : Nat)
    (ops : List FileOp) (op : FileOp) :
    (∃ fault, fs.run fails i (ops ++ [op]) = ((fs.run fails i ops).1, .error fault)) ∨
      ∃ next, (fs.run fails i ops).1.apply op = .ok next ∧
        fs.run fails i (ops ++ [op]) = (next, .ok ()) := by
  induction ops generalizing fs i with
  | nil => exact fs.run_cons fails i op []
  | cons first ops ih =>
    simp only [List.cons_append, run]
    cases fails i with
    | some fault => exact .inl ⟨fault, rfl⟩
    | none =>
      cases fs.apply first with
      | error fault => exact .inl ⟨fault, rfl⟩
      | ok next => exact ih next (i + 1)

/-- All steps of a run are taken exactly if none is made to fail and all can be taken. -/
theorem run_eq_ok (fs : FileSystem) (ops : List FileOp) (fails : Nat → Option FileFault) (i : Nat) :
    (fs.run fails i ops).2 = .ok () ↔
      (∀ j < ops.length, fails (i + j) = none) ∧ (fs.run reliable 0 ops).2 = .ok () := by
  suffices h : ∀ k, (fs.run fails i ops).2 = .ok () ↔
      (∀ j < ops.length, fails (i + j) = none) ∧ (fs.run reliable k ops).2 = .ok () from h 0
  induction ops generalizing fs i with
  | nil => simp [run]
  | cons op ops ih =>
    intro k
    rw [List.length_cons, Nat.forall_lt_succ_left]
    simp only [run, reliable, Nat.add_zero]
    cases fails i with
    | some fault => simp
    | none =>
      cases fs.apply op with
      | error fault => simp
      | ok next =>
        rw [ih next (i + 1) (k + 1)]
        simp [Nat.add_comm, Nat.add_left_comm]

end FileSystem

namespace RecordFile

/-! ## The steps of a save -/

/-- The steps that write the draft. -/
def draftOps (draft : Path) (pieces : List Bytes) : List FileOp :=
  .create draft :: pieces.map (.append draft) ++ [.sync draft]

theorem saveOps_eq (draft record : Path) (pieces : List Bytes) :
    saveOps draft record pieces = draftOps draft pieces ++ [.rename draft record] := by
  simp [saveOps, draftOps]

theorem length_draftOps (draft : Path) (pieces : List Bytes) :
    (draftOps draft pieces).length = pieces.length + 2 := by
  simp [draftOps]

theorem length_saveOps (draft record : Path) (pieces : List Bytes) :
    (saveOps draft record pieces).length = pieces.length + 3 := by
  simp [saveOps]

theorem writes_of_mem_draftOps {draft : Path} {pieces : List Bytes} :
    ∀ op ∈ draftOps draft pieces, op.Writes draft := by
  intro op h
  simp only [draftOps, List.cons_append, List.mem_cons, List.mem_append, List.mem_map,
    List.not_mem_nil, or_false] at h
  rcases h with rfl | ⟨piece, -, rfl⟩ | rfl <;> rfl

section
variable {fs : FileSystem} {draft record : Path}

theorem run_appends_eq_ok (pieces : List Bytes) (i : Nat) {content : Bytes}
    (hread : fs.read draft = .ok content) (hlength : draft.length = record.length)
    (hne : record ≠ draft) (hopen : fs.obstacle? record = none)
    (hfree : fs.isDirectory record = false) :
    (fs.run FileSystem.reliable i
      (pieces.map (.append draft) ++ [.sync draft, .rename draft record])).2 = .ok () := by
  induction pieces generalizing fs i content with
  | nil =>
    rw [List.map_nil, List.nil_append,
      FileSystem.run_reliable_cons (FileSystem.apply_sync hread),
      FileSystem.run_reliable_cons (FileSystem.apply_rename hread hopen hfree), FileSystem.run]
  | cons piece pieces ih =>
    have halike := FileSystem.AlikeOff.put draft fs (.file (content ++ piece))
    rw [List.map_cons, List.cons_append,
      FileSystem.run_reliable_cons (FileSystem.apply_append hread piece)]
    have hwritten : (fs.put draft (.file (content ++ piece))).read draft = .ok (content ++ piece) :=
      FileSystem.read_put_self (FileSystem.read_eq_ok_iff.1 hread).1
        (FileSystem.isDirectory_of_read hread) _
    refine ih (i + 1) hwritten ?_ ?_
    · rw [halike.obstacle? hlength, hopen]
    · rw [halike.isDirectory hne, hfree]

/-- **All steps of a save can be taken if and only if draft and record can be reached.** -/
theorem run_saveOps_eq_ok_iff (pieces : List Bytes) (hlength : draft.length = record.length)
    (hne : record ≠ draft) :
    (fs.run FileSystem.reliable 0 (saveOps draft record pieces)).2 = .ok () ↔
      (fs.obstacle? draft = none ∧ fs.isDirectory draft = false) ∧
        fs.obstacle? record = none ∧ fs.isDirectory record = false := by
  constructor
  · intro hrun
    constructor
    · -- the first step needs the draft
      rcases fs.run_cons FileSystem.reliable 0 (.create draft) _ with
        ⟨fault, hfailed⟩ | ⟨next, happly, -⟩
      · rw [saveOps, List.cons_append, hfailed] at hrun
        cases hrun
      · obtain ⟨hopen, hfree, -⟩ := FileSystem.of_apply_create happly
        exact ⟨hopen, hfree⟩
    · -- the last step needs the record, and no other has changed it
      rcases FileSystem.run_concat fs FileSystem.reliable 0 (draftOps draft pieces)
        (.rename draft record) with ⟨fault, hfailed⟩ | ⟨next, happly, -⟩
      · rw [saveOps_eq, hfailed] at hrun
        cases hrun
      · have hchanged : FileSystem.ChangedOnly draft fs
            (fs.run FileSystem.reliable 0 (draftOps draft pieces)).1 :=
          FileSystem.changedOnly_run FileSystem.reliable 0 writes_of_mem_draftOps
        obtain ⟨-, -, hopen, hfree, -⟩ := FileSystem.of_apply_rename happly
        rw [hchanged.alike.obstacle? hlength] at hopen
        rw [hchanged.alike.isDirectory hne] at hfree
        exact ⟨hopen, hfree⟩
  · rintro ⟨⟨hdraft, hdraftFree⟩, hopen, hfree⟩
    have halike := FileSystem.AlikeOff.put draft fs (.file [])
    rw [saveOps, List.cons_append,
      FileSystem.run_reliable_cons (FileSystem.apply_create hdraft hdraftFree)]
    refine run_appends_eq_ok pieces 1 (FileSystem.read_put_self hdraft hdraftFree []) hlength hne
      ?_ ?_
    · rw [halike.obstacle? hlength, hopen]
    · rw [halike.isDirectory hne, hfree]

end

/-! ## The stages of a save -/

variable (course : SaveCourse) (file : RecordFile) (fs : FileSystem) (identity : Identity)

/-- The number of steps of a save: the draft is made, written piece by piece, synced and moved. -/
def stepCount : Nat := (course.pieces (content identity)).length + 3

/-- What the file system is like when the first `n` steps of a save were taken, or all up to one
    that failed. -/
def stage (n : Nat) : FileSystem :=
  match fs.resolve file.draft, fs.resolve file.record with
  | .ok draft, .ok record =>
    (fs.run course.fails 0 ((saveOps draft record (course.pieces (content identity))).take n)).1
  | _, _ => fs

variable {course file fs identity} {draft record : Path} {n : Nat}

theorem stage_of_resolve (hdraft : fs.resolve file.draft = .ok draft)
    (hrecord : fs.resolve file.record = .ok record) (n : Nat) :
    file.stage course fs identity n =
      (fs.run course.fails 0
        ((saveOps draft record (course.pieces (content identity))).take n)).1 := by
  simp only [stage, hdraft, hrecord]

theorem saveBy_of_resolve (hdraft : fs.resolve file.draft = .ok draft)
    (hrecord : fs.resolve file.record = .ok record) :
    file.saveBy course fs identity =
      ((fs.run course.fails 0 (saveOps draft record (course.pieces (content identity)))).1,
        (fs.run course.fails 0
          (saveOps draft record (course.pieces (content identity)))).2.mapError .file) := by
  simp only [saveBy, hdraft, hrecord]

/-- Where draft or record cannot be looked up, nothing is done. -/
theorem resolve_or_stays (course : SaveCourse) (file : RecordFile) (fs : FileSystem)
    (identity : Identity) :
    (∃ draft record, fs.resolve file.draft = .ok draft ∧ fs.resolve file.record = .ok record) ∨
      (∀ draft record, ¬ file.Reaches fs draft record) ∧
        (∃ fault, file.saveBy course fs identity = (fs, .error (.file fault))) ∧
        ∀ n, file.stage course fs identity n = fs := by
  cases hdraft : fs.resolve file.draft with
  | error fault =>
    refine .inr ⟨?_, ⟨fault, ?_⟩, ?_⟩
    · intro draft record h
      cases hdraft.symm.trans h.toDraft
    · simp only [saveBy, hdraft]
    · intro n
      simp only [stage, hdraft]
  | ok draft =>
    cases hrecord : fs.resolve file.record with
    | error fault =>
      refine .inr ⟨?_, ⟨fault, ?_⟩, ?_⟩
      · intro draft record h
        cases hrecord.symm.trans h.toRecord
      · simp only [saveBy, hdraft, hrecord]
      · intro n
        simp only [stage, hdraft, hrecord]
    | ok record => exact .inl ⟨draft, record, rfl, rfl⟩

/-- Before its last step a save has changed nothing but the draft. -/
theorem changedOnly_stage (hdraft : fs.resolve file.draft = .ok draft)
    (hrecord : fs.resolve file.record = .ok record) (hn : n < stepCount course identity) :
    FileSystem.ChangedOnly draft fs (file.stage course fs identity n) := by
  have hlength : n ≤ (draftOps draft (course.pieces (content identity))).length := by
    rw [length_draftOps]
    exact Nat.le_of_lt_succ hn
  rw [stage_of_resolve hdraft hrecord, saveOps_eq, List.take_append_of_le_length hlength]
  exact FileSystem.changedOnly_run course.fails 0 fun op hop =>
    writes_of_mem_draftOps op (List.mem_of_mem_take hop)

theorem read_stage (hn : n < stepCount course identity) :
    file.read (file.stage course fs identity n) = file.read fs := by
  rcases file.resolve_or_stays course fs identity with
    ⟨draft, record, hdraft, hrecord⟩ | ⟨-, -, hstays⟩
  · obtain ⟨hlength, hne⟩ := file.beside fs hdraft hrecord
    have hchanged := changedOnly_stage hdraft hrecord hn
    have hrecord' := FileSystem.resolve_child_mono hchanged.directories hrecord
    rw [read_of_resolve hrecord', read_of_resolve hrecord, hchanged.alike.read hlength hne]
  · rw [hstays]

theorem stage_of_le (hn : stepCount course identity ≤ n) :
    file.stage course fs identity n = (file.saveBy course fs identity).1 := by
  rcases file.resolve_or_stays course fs identity with
    ⟨draft, record, hdraft, hrecord⟩ | ⟨-, ⟨fault, hfailed⟩, hstays⟩
  · have hlength : (saveOps draft record (course.pieces (content identity))).length ≤ n := by
      rw [length_saveOps]
      exact hn
    rw [stage_of_resolve hdraft hrecord, saveBy_of_resolve hdraft hrecord,
      List.take_of_length_le hlength]
  · rw [hstays, hfailed]

/-- **A failed save is the stage before its last step**, and a successful one takes that step. -/
theorem saveBy_last (course : SaveCourse) (file : RecordFile) (fs : FileSystem)
    (identity : Identity) :
    let before := file.stage course fs identity (stepCount course identity - 1)
    (∃ fault, file.saveBy course fs identity = (before, .error (.file fault))) ∨
      ∃ draft record, fs.resolve file.draft = .ok draft ∧ fs.resolve file.record = .ok record ∧
        ∃ next, before.apply (.rename draft record) = .ok next ∧
          file.saveBy course fs identity = (next, .ok ()) := by
  intro before
  rcases file.resolve_or_stays course fs identity with
    ⟨draft, record, hdraft, hrecord⟩ | ⟨-, hfailed, hstays⟩
  · have hbefore : before =
        (fs.run course.fails 0 (draftOps draft (course.pieces (content identity)))).1 := by
      have hlength : stepCount course identity - 1 =
          (draftOps draft (course.pieces (content identity))).length := by
        rw [length_draftOps, stepCount]
        rfl
      show file.stage course fs identity _ = _
      rw [stage_of_resolve hdraft hrecord, saveOps_eq, hlength, List.take_left]
    rw [saveBy_of_resolve hdraft hrecord, saveOps_eq, hbefore]
    rcases FileSystem.run_concat fs course.fails 0
      (draftOps draft (course.pieces (content identity))) (.rename draft record) with
      ⟨fault, hrun⟩ | ⟨next, happly, hrun⟩
    · exact .inl ⟨fault, by rw [hrun]; rfl⟩
    · exact .inr ⟨draft, record, hdraft, hrecord, next, happly, by rw [hrun]; rfl⟩
  · left
    obtain ⟨fault, hfailed⟩ := hfailed
    exact ⟨fault, hfailed.trans (by rw [show before = fs from hstays _])⟩

/-! ## Outcomes -/

/-- **A save succeeds if and only if draft and record can be reached and no step fails.** -/
theorem saveBy_eq_ok_iff (course : SaveCourse) (file : RecordFile) (fs : FileSystem)
    (identity : Identity) :
    (file.saveBy course fs identity).2 = .ok () ↔
      (∃ draft record, file.Reaches fs draft record) ∧
        ∀ i < stepCount course identity, course.fails i = none := by
  rcases file.resolve_or_stays course fs identity with
    ⟨draft, record, hdraft, hrecord⟩ | ⟨hunreached, ⟨fault, hfailed⟩, -⟩
  · obtain ⟨hlength, hne⟩ := file.beside fs hdraft hrecord
    have hreaches : (∃ draft record, file.Reaches fs draft record) ↔
        (fs.obstacle? draft = none ∧ fs.isDirectory draft = false) ∧
          fs.obstacle? record = none ∧ fs.isDirectory record = false := by
      constructor
      · rintro ⟨draft', record', h⟩
        cases hdraft.symm.trans h.toDraft
        cases hrecord.symm.trans h.toRecord
        exact ⟨⟨h.draftOpen, h.draftFree⟩, h.recordOpen, h.recordFree⟩
      · rintro ⟨⟨hdraftOpen, hdraftFree⟩, hopen, hfree⟩
        exact ⟨draft, record, hdraft, hrecord, hdraftOpen, hopen, hdraftFree, hfree⟩
    have hrun := fs.run_eq_ok (saveOps draft record (course.pieces (content identity)))
      course.fails 0
    rw [length_saveOps, run_saveOps_eq_ok_iff _ hlength hne, ← hreaches, and_comm] at hrun
    simp only [Nat.zero_add] at hrun
    rw [saveBy_of_resolve hdraft hrecord, stepCount, ← hrun]
    cases (fs.run course.fails 0 _).2 <;> simp [Except.mapError]
  · rw [hfailed]
    refine iff_of_false nofun ?_
    rintro ⟨⟨draft, record, h⟩, -⟩
    exact hunreached draft record h

/-- A save that fails changes nothing but the draft. -/
theorem of_saveBy_error {e : Error} (h : (file.saveBy course fs identity).2 = .error e) :
    (∃ fault, e = .file fault) ∧
      file.read (file.saveBy course fs identity).1 = file.read fs ∧
      ∀ path, fs.resolve file.draft ≠ .ok path →
        FileSystem.entry? (file.saveBy course fs identity).1 path = fs.entry? path := by
  have hbefore : stepCount course identity - 1 < stepCount course identity :=
    Nat.sub_lt (Nat.succ_pos _) (Nat.succ_pos _)
  rcases file.saveBy_last course fs identity with
    ⟨fault, hfailed⟩ | ⟨draft, record, -, -, next, -, hsaved⟩
  · rw [hfailed] at h ⊢
    cases h
    refine ⟨⟨fault, rfl⟩, read_stage hbefore, ?_⟩
    intro path hpath
    rcases file.resolve_or_stays course fs identity with
      ⟨draft, record, hdraft, hrecord⟩ | ⟨-, -, hstays⟩
    · refine (changedOnly_stage hdraft hrecord hbefore).alike path ?_
      rintro rfl
      exact hpath hdraft
    · rw [hstays]
  · rw [hsaved] at h
    cases h

/-- A save that succeeds changes nothing but the record, and leaves no draft. -/
theorem of_saveBy_ok (h : (file.saveBy course fs identity).2 = .ok ()) :
    file.read (file.saveBy course fs identity).1 = .ok (content identity) ∧
      (file.saveBy course fs identity).1.leadsSomewhere file.draft = false ∧
      ∀ path, fs.resolve file.draft ≠ .ok path → fs.resolve file.record ≠ .ok path →
        FileSystem.entry? (file.saveBy course fs identity).1 path = fs.entry? path := by
  have hread : file.read (file.saveBy course fs identity).1 = .ok (content identity) := by
    rcases file.saveBy_cases course fs identity with ⟨⟨e, he⟩, -⟩ | ⟨-, hread⟩
    · cases h.symm.trans he
    · exact hread
  refine ⟨hread, ?_⟩
  rcases file.saveBy_last course fs identity with
    ⟨fault, hfailed⟩ | ⟨draft, record, hdraft, hrecord, next, happly, hsaved⟩
  · rw [hfailed] at h
    cases h
  · have hchanged := changedOnly_stage hdraft hrecord
      (Nat.sub_lt (Nat.succ_pos _) (Nat.succ_pos _) : stepCount course identity - 1 < _)
    obtain ⟨hlength, hne⟩ := file.beside fs hdraft hrecord
    obtain ⟨moved, hmoved, hopen, hfile, rfl⟩ := FileSystem.of_apply_rename happly
    rw [hsaved]
    generalize file.stage course fs identity (stepCount course identity - 1) = before at *
    have hfree := FileSystem.isDirectory_of_read hmoved
    obtain ⟨hmono, -⟩ :=
      FileSystem.moved_spec moved (.refl draft before) hfree hlength hne hopen hfile
    constructor
    · -- the way to the draft leads where it did, and nothing is there
      have hdraft' := FileSystem.resolve_child_mono
        (fun q hq => hmono q (hchanged.directories q hq)) hdraft
      have hgone : FileSystem.entry? ((before.erase draft).put record (.file moved)) draft =
          none := by
        rw [FileSystem.entry?_put_of_ne hne.symm, FileSystem.entry?_erase_self hfree]
      rw [FileSystem.leadsSomewhere, RecordFile.draft, hdraft']
      simp only [hgone, Option.isSome_none]
    · intro path hpath hpath'
      rw [FileSystem.entry?_put_of_ne, FileSystem.entry?_erase_of_ne]
      · refine hchanged.alike path ?_
        rintro rfl
        exact hpath hdraft
      · rintro rfl
        exact hpath hdraft
      · rintro rfl
        exact hpath' hrecord

/-- **A save replaces the record as a whole or not at all**, in every file system, in whatever
    pieces the content is written and at whatever step it fails. If it fails, only the draft has
    changed; if it succeeds, the record is the content, the draft is gone and all else is as before.
    Before its last step the record reads as before. -/
theorem save_atomic (course : SaveCourse) (file : RecordFile) (fs : FileSystem)
    (identity : Identity) :
    let o := file.saveBy course fs identity
    let last := stepCount course identity
    ((∃ fault, o.2 = .error (.file fault)) ∧
        file.read o.1 = file.read fs ∧ file.load o.1 = file.load fs ∧
        (∀ path, fs.resolve file.draft ≠ .ok path → FileSystem.entry? o.1 path = fs.entry? path) ∨
      o.2 = .ok () ∧
        file.read o.1 = .ok (content identity) ∧
        file.load o.1 = .ok (Storage.filled (some identity)) ∧
        o.1.leadsSomewhere file.draft = false ∧
        ∀ path, fs.resolve file.draft ≠ .ok path → fs.resolve file.record ≠ .ok path →
          FileSystem.entry? o.1 path = fs.entry? path) ∧
    (o.2 = .ok () ↔ (∃ draft record, file.Reaches fs draft record) ∧
      ∀ i < last, course.fails i = none) ∧
    (∀ n < last, file.read (file.stage course fs identity n) = file.read fs) ∧
    (∀ n, last ≤ n → file.stage course fs identity n = o.1) ∧
    file.saveBy .smooth fs identity = file.save fs identity := by
  intro o last
  refine ⟨?_, file.saveBy_eq_ok_iff course fs identity, fun n hn => read_stage hn,
    fun n hn => stage_of_le hn, file.saveBy_smooth fs identity⟩
  cases houtcome : o.2 with
  | error e =>
    obtain ⟨⟨fault, rfl⟩, hread, hrest⟩ := of_saveBy_error houtcome
    exact .inl ⟨⟨fault, rfl⟩, hread, load_congr hread, hrest⟩
  | ok _ =>
    obtain ⟨hread, hgone, hrest⟩ := of_saveBy_ok houtcome
    exact .inr ⟨rfl, hread, load_of_read hread, hgone, hrest⟩

end RecordFile
end LightningLottery
