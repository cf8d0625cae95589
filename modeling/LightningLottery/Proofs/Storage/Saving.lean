/-
  A save that fails leaves the record as it was, and one that succeeds replaces it.

  * `SaveCourse`: which steps of a save fail, and in what pieces its content is written.
  * `FileSystem.run_appends`, `FileSystem.run_saveOps`: all that the steps of a save do.
  * `RecordFile.saveBy_cases`: the record on disk stays, or holds the whole new content.
  * `Storage.saveBy_cases`: what is stored stays, or is the new identity.
-/
import LightningLottery.Proofs.Identity.Check
import LightningLottery.Proofs.Json.Members
import LightningLottery.Proofs.Storage.Entries

namespace LightningLottery

/-- How a save to disk goes: which of its steps are made to fail, and in what pieces its content is
    written. -/
structure SaveCourse where
  fails : Nat → Option FileFault
  pieces : Bytes → List Bytes
  whole : ∀ content, (pieces content).flatten = content

/-- No step is made to fail, and all is written at once. -/
def SaveCourse.smooth : SaveCourse where
  fails := FileSystem.reliable
  pieces content := [content]
  whole _ := List.append_nil _

namespace FileSystem

variable {fs : FileSystem} {draft record : Path}

theorem run_cons (fs : FileSystem) (fails : Nat → Option FileFault) (i : Nat) (op : FileOp)
    (ops : List FileOp) :
    (∃ fault, fs.run fails i (op :: ops) = (fs, .error fault)) ∨
      ∃ next, fs.apply op = .ok next ∧ fs.run fails i (op :: ops) = next.run fails (i + 1) ops := by
  rw [run]
  cases fails i with
  | some fault => exact Or.inl ⟨fault, rfl⟩
  | none =>
    cases happly : fs.apply op with
    | error fault => exact Or.inl ⟨fault, rfl⟩
    | ok next => exact Or.inr ⟨next, rfl, rfl⟩

/-- What becomes of a file system whose draft is to be moved over the record: some step fails, and
    nothing but the draft has changed, or the record has this content and the draft is gone. -/
def Moved (draft record : Path) (content : Bytes) (fs : FileSystem)
    (outcome : FileSystem × Except FileFault Unit) : Prop :=
  (∃ fault, outcome.2 = .error fault ∧ AlikeOff draft fs outcome.1) ∨
    outcome.2 = .ok () ∧ ∃ last, AlikeOff draft fs last ∧ last.obstacle? record = none ∧
      last.isDirectory record = false ∧
      outcome.1 = (last.erase draft).put record (.file content)

theorem Moved.of_alikeOff {fs' : FileSystem} {content : Bytes}
    {outcome : FileSystem × Except FileFault Unit} (h : Moved draft record content fs' outcome)
    (halike : AlikeOff draft fs fs') : Moved draft record content fs outcome := by
  rcases h with ⟨fault, hfault, hrest⟩ | ⟨hok, last, hrest, hmoved⟩
  · exact Or.inl ⟨fault, hfault, halike.trans hrest⟩
  · exact Or.inr ⟨hok, last, halike.trans hrest, hmoved⟩

theorem run_move (fails : Nat → Option FileFault) (i : Nat) {content : Bytes}
    (h : fs.read draft = .ok content) :
    Moved draft record content fs (fs.run fails i [.sync draft, .rename draft record]) := by
  rcases fs.run_cons fails i (.sync draft) [.rename draft record] with
    ⟨fault, hrun⟩ | ⟨next, happly, hrun⟩
  · exact Or.inl ⟨fault, by rw [hrun], by rw [hrun]; exact .refl _ _⟩
  · obtain rfl := of_apply_sync happly
    rw [hrun]
    rcases next.run_cons fails (i + 1) (.rename draft record) [] with
      ⟨fault, hrun⟩ | ⟨moved, happly, hrun⟩
    · exact Or.inl ⟨fault, by rw [hrun], by rw [hrun]; exact .refl _ _⟩
    · obtain ⟨content', hread, hreach, hfile, rfl⟩ := of_apply_rename happly
      cases hread.symm.trans h
      rw [hrun]
      exact Or.inr ⟨rfl, next, .refl _ _, hreach, hfile, rfl⟩

/-- **Pieces that are appended, and moved over the record, end in `Moved`.** -/
theorem run_appends (fails : Nat → Option FileFault) (i : Nat) (pieces : List Bytes)
    {content : Bytes} (h : fs.read draft = .ok content) :
    Moved draft record (content ++ pieces.flatten) fs
      (fs.run fails i (pieces.map (.append draft) ++ [.sync draft, .rename draft record])) := by
  induction pieces generalizing fs i content with
  | nil =>
    rw [List.flatten_nil, List.append_nil]
    exact run_move fails i h
  | cons piece pieces ih =>
    rw [List.map_cons, List.cons_append, List.flatten_cons, ← List.append_assoc]
    rcases fs.run_cons fails i (.append draft piece) _ with ⟨fault, hrun⟩ | ⟨next, happly, hrun⟩
    · exact Or.inl ⟨fault, by rw [hrun], by rw [hrun]; exact .refl _ _⟩
    · -- the draft is read as all that was written so far, so the next piece can be added
      obtain ⟨content', hread, rfl⟩ := of_apply_append happly
      cases hread.symm.trans h
      rw [hrun]
      have hreach := (read_eq_ok_iff.1 h).1
      have hnext := read_put_self hreach (isDirectory_of_read h) (content ++ piece)
      exact (ih (i + 1) hnext).of_alikeOff (.put _ _ _)

/-- **What the steps of a save do**, up to one that fails. -/
theorem run_saveOps (fs : FileSystem) (draft record : Path) (fails : Nat → Option FileFault)
    (pieces : List Bytes) :
    (∃ fault, fs.run fails 0 (RecordFile.saveOps draft record pieces) = (fs, .error fault)) ∨
      fs.isDirectory draft = false ∧ Moved draft record pieces.flatten fs
        (fs.run fails 0 (RecordFile.saveOps draft record pieces)) := by
  rw [RecordFile.saveOps, List.cons_append]
  rcases fs.run_cons fails 0 (.create draft) _ with hfailed | ⟨next, happly, hrun⟩
  · exact Or.inl hfailed
  · obtain ⟨hreach, hfile, rfl⟩ := of_apply_create happly
    rw [hrun]
    have hnext : Moved draft record ([] ++ pieces.flatten) _ _ :=
      run_appends fails 1 pieces (read_put_self hreach hfile [])
    exact Or.inr ⟨hfile, hnext.of_alikeOff (.put _ _ _)⟩

/-- What a draft that is moved over the record makes of the file system: directories stay
    directories, and the record is read as the content. -/
theorem moved_spec {last : FileSystem} (content : Bytes) (halike : AlikeOff draft fs last)
    (hdraft : fs.isDirectory draft = false) (hlength : draft.length = record.length)
    (hne : record ≠ draft) (hreach : last.obstacle? record = none)
    (hrecord : last.isDirectory record = false) :
    (∀ q, fs.isDirectory q = true →
        ((last.erase draft).put record (.file content)).isDirectory q = true) ∧
      ((last.erase draft).put record (.file content)).read record = .ok content := by
  have herased := AlikeOff.erase draft last
  have hrecord' : (last.erase draft).isDirectory record = false := by
    rw [herased.isDirectory hne, hrecord]
  refine ⟨fun q hq => ?_, read_put_self ?_ hrecord' content⟩
  · exact (AlikeOff.put record _ _).mono hrecord' q
      ((halike.trans herased).mono hdraft q hq)
  · rw [herased.obstacle? hlength, hreach]

end FileSystem

namespace RecordFile

variable (course : SaveCourse) (file : RecordFile) (fs : FileSystem) (identity : Identity)

/-- Stores an identity in the place of the record, as far as the course of the save lets it. -/
def saveBy : FileSystem × Except Error Unit :=
  match fs.resolve file.draft, fs.resolve file.record with
  | .error fault, _ | .ok _, .error fault => (fs, .error (.file fault))
  | .ok draft, .ok record =>
    let (after, outcome) :=
      fs.run course.fails 0 (saveOps draft record (course.pieces (content identity)))
    (after, outcome.mapError .file)

theorem saveBy_smooth : file.saveBy .smooth fs identity = file.save fs identity := rfl

theorem beside {draft record : Path} (hdraft : fs.resolve file.draft = .ok draft)
    (hrecord : fs.resolve file.record = .ok record) :
    draft.length = record.length ∧ record ≠ draft := by
  obtain ⟨folder, hfolder, rfl⟩ :=
    FileSystem.exists_of_walk_name (FileSystem.resolve_child_eq_ok_iff.1 hdraft).2
  obtain ⟨folder', hfolder', rfl⟩ :=
    FileSystem.exists_of_walk_name (FileSystem.resolve_child_eq_ok_iff.1 hrecord).2
  cases hfolder.symm.trans hfolder'
  refine ⟨by rw [List.length_append, List.length_append]; rfl, fun heq => ?_⟩
  have hname := List.append_cancel_left heq
  revert hname
  decide

theorem read_of_resolve {file : RecordFile} {fs : FileSystem} {record : Path}
    (h : fs.resolve file.record = .ok record) : file.read fs = fs.read record := by
  rw [read, h]
  rfl

/-- **The record stays as it is if the save fails, and else it is the new content.** -/
theorem saveBy_cases :
    ((∃ e, (file.saveBy course fs identity).2 = .error e) ∧
      file.read (file.saveBy course fs identity).1 = file.read fs) ∨
    (file.saveBy course fs identity).2 = .ok () ∧
      file.read (file.saveBy course fs identity).1 = .ok (content identity) := by
  unfold saveBy
  cases hdraft : fs.resolve file.draft with
  | error fault => exact Or.inl ⟨⟨_, rfl⟩, rfl⟩
  | ok draft =>
    cases hrecord : fs.resolve file.record with
    | error fault => exact Or.inl ⟨⟨_, rfl⟩, rfl⟩
    | ok record =>
      obtain ⟨hlength, hne⟩ := file.beside fs hdraft hrecord
      simp only
      rcases FileSystem.run_saveOps fs draft record course.fails
        (course.pieces (content identity)) with ⟨fault, hrun⟩ | ⟨hfile, hmoved⟩
      · rw [hrun]
        exact Or.inl ⟨⟨_, rfl⟩, rfl⟩
      · -- the draft was no directory, so every way to the record is still open
        rw [course.whole] at hmoved
        rcases hmoved with ⟨fault, hfault, halike⟩ | ⟨hok, last, halike, hreach, hrecord', hafter⟩
        · refine Or.inl ⟨⟨.file fault, by rw [hfault]; rfl⟩, ?_⟩
          have hstays := FileSystem.resolve_child_mono (halike.mono hfile) hrecord
          rw [read_of_resolve hstays, read_of_resolve hrecord, halike.read hlength hne]
        · obtain ⟨hmono, hread⟩ := FileSystem.moved_spec (content identity) halike hfile hlength
            hne hreach hrecord'
          refine Or.inr ⟨by rw [hok]; rfl, ?_⟩
          rw [hafter, read_of_resolve (FileSystem.resolve_child_mono hmono hrecord), hread]

theorem load_congr {file : RecordFile} {fs fs' : FileSystem} (h : file.read fs' = file.read fs) :
    file.load fs' = file.load fs := by
  rw [load, load, h]

theorem load_of_read {file : RecordFile} {fs : FileSystem} {identity : Identity}
    (h : file.read fs = .ok (content identity)) :
    file.load fs = .ok (Storage.filled (some identity)) := by
  rw [load, h]
  simp only [Identity.decode_content, Storage.filled, Option.filter_some, Bool.not_eq_true']
  cases identity.isEmpty <;> rfl

end RecordFile

namespace Storage

variable (course : SaveCourse) (storage : Storage) (identity : Identity)

/-- The record as it stands: the bytes on disk or why they cannot be read, or what is in memory. -/
def record : Storage → Except FileFault Bytes ⊕ Option Identity
  | .memory slot | .full slot _ => .inr slot
  | .disk fs file => .inl (file.read fs)

/-- Stores an identity in the place of the one before, as far as the course of the save lets it. -/
def saveBy : Storage × Except Error Unit :=
  match storage with
  | .disk fs file =>
    let (after, outcome) := file.saveBy course fs identity
    (.disk after file, outcome)
  | .memory slot => (Storage.memory slot).save identity
  | .full slot fault => (Storage.full slot fault).save identity

theorem saveBy_smooth : storage.saveBy .smooth identity = storage.save identity := by
  cases storage <;> rfl

/-- **What is stored stays as it is if the save fails, and else it is the identity.** -/
theorem saveBy_cases :
    ((∃ e, (storage.saveBy course identity).2 = .error e) ∧
      (storage.saveBy course identity).1.record = storage.record ∧
      (storage.saveBy course identity).1.load = storage.load) ∨
    (storage.saveBy course identity).2 = .ok () ∧
      (storage.saveBy course identity).1.load = .ok (filled (some identity)) := by
  cases storage with
  | memory slot => exact Or.inr ⟨rfl, rfl⟩
  | full slot fault => exact Or.inl ⟨⟨_, rfl⟩, rfl, rfl⟩
  | disk fs file =>
    rcases file.saveBy_cases course fs identity with ⟨hfailed, hread⟩ | ⟨hok, hread⟩
    · exact Or.inl ⟨hfailed, congrArg Sum.inl hread, RecordFile.load_congr hread⟩
    · exact Or.inr ⟨hok, RecordFile.load_of_read hread⟩

end Storage
end LightningLottery
