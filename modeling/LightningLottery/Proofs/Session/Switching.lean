/-
  A session switches to another identity as a whole or not at all.

  * `Session.replaceIdentityBy`: a switch whose save may fail at any step.
  * `Session.replaceIdentityBy_cases`: all that it may come to.
  * `Session.replaceIdentity_all_or_nothing`: so what is stored, the identity and the name of the
    requests change together, and after any moves the requests go in the name of the identity.
-/
import LightningLottery.Proofs.Session.Course
import LightningLottery.Proofs.Storage.Saving

namespace LightningLottery

namespace Session

variable {Tag : Type} (course : SaveCourse) (s : Session Tag) (identity : Identity)
  (storage : Storage)

/-- Saves an identity and switches to it, as far as the course of the save lets it. -/
def replaceIdentityBy : (Session Tag × Storage) × Except Error Unit :=
  match identity.check with
  | .error e => ((s, storage), .error e)
  | .ok _ =>
    match storage.saveBy course identity with
    | (storage, .error e) => ((s, storage), .error e)
    | (storage, .ok _) =>
      (({ s with api := s.api.setPublicKey identity.publicKey, identity := identity }, storage),
        .ok ())

theorem replaceIdentityBy_smooth :
    s.replaceIdentityBy .smooth identity storage = s.replaceIdentity identity storage := by
  unfold replaceIdentityBy replaceIdentity
  cases identity.check with
  | error e => rfl
  | ok _ =>
    generalize hsaved : storage.saveBy .smooth identity = saved
    rw [Storage.saveBy_smooth] at hsaved
    subst hsaved
    rcases storage.save identity with ⟨after, e | _⟩ <;> rfl

/-- **A switch fails and changes nothing, or succeeds and changes record, identity and bearer key.**
    -/
theorem replaceIdentityBy_cases :
    (∃ e, (s.replaceIdentityBy course identity storage).2 = .error e) ∧
        (s.replaceIdentityBy course identity storage).1.1 = s ∧
        (s.replaceIdentityBy course identity storage).1.2.record = storage.record ∧
        (s.replaceIdentityBy course identity storage).1.2.load = storage.load ∨
      (s.replaceIdentityBy course identity storage).2 = .ok () ∧
        (s.replaceIdentityBy course identity storage).1.1 =
          { s with api := s.api.setPublicKey identity.publicKey, identity := identity } ∧
        (s.replaceIdentityBy course identity storage).1.2.load = .ok (some identity) := by
  unfold replaceIdentityBy
  cases hcheck : identity.check with
  | error e => exact Or.inl ⟨⟨e, rfl⟩, rfl, rfl, rfl⟩
  | ok _ =>
    -- an identity that passes the check is not taken for an empty record
    have hfilled : Storage.filled (some identity) = some identity := by
      rw [Storage.filled, Option.filter_some, Identity.isEmpty_of_check hcheck]
      rfl
    have hsaved := storage.saveBy_cases course identity
    rw [hfilled] at hsaved
    generalize storage.saveBy course identity = saved at hsaved
    rcases saved with ⟨after, e | _⟩
    · rcases hsaved with ⟨-, hrecord, hload⟩ | ⟨hok, -⟩
      · exact Or.inl ⟨⟨e, rfl⟩, rfl, hrecord, hload⟩
      · cases hok
    · rcases hsaved with ⟨⟨e, hfailed⟩, -⟩ | ⟨-, hload⟩
      · cases hfailed
      · exact Or.inr ⟨rfl, rfl, hload⟩

/-- A switch fails by the check first, and then by the save. -/
theorem replaceIdentityBy_snd :
    (s.replaceIdentityBy course identity storage).2 =
      identity.check >>= fun _ => (storage.saveBy course identity).2 := by
  unfold replaceIdentityBy
  cases identity.check with
  | error e => rfl
  | ok _ => rcases storage.saveBy course identity with ⟨after, e | _⟩ <;> rfl

theorem replaceIdentityBy_fst :
    (s.replaceIdentityBy course identity storage).1.1 =
      s.switch identity (storage.saveBy course identity).2 := by
  unfold replaceIdentityBy switch
  cases identity.check with
  | error e => rfl
  | ok _ => rcases storage.saveBy course identity with ⟨after, e | _⟩ <;> rfl

variable [DecidableEq Tag]

/-- **`replaceIdentity` changes nothing or everything**: record, identity and bearer key together,
    at whatever step the save fails. After all moves of a session the bearer key is the public key
    of its identity. -/
theorem replaceIdentity_all_or_nothing (config : Config) (owner : Identity) (api : ApiClient)
    (moves : List (SessionMove Tag)) :
    let o := s.replaceIdentityBy course identity storage
    ((∃ e, o.2 = .error e) ∧ o.1.1 = s ∧ o.1.2.record = storage.record ∧
          o.1.2.load = storage.load ∨
        o.2 = .ok () ∧ o.1.2.load = .ok (some identity) ∧ o.1.1.identity = identity ∧
          o.1.1.api.publicKey = identity.publicKey) ∧
      (o.2 = identity.check >>= fun _ => (storage.saveBy course identity).2) ∧
      s.replaceIdentityBy .smooth identity storage = s.replaceIdentity identity storage ∧
      (let c := (SessionCourse.start config owner api).run moves
      c.session.api.publicKey = c.session.identity.publicKey ∧
        (c.session.replaceIdentityBy course identity storage).1.1 =
          (c.next (.switched identity (storage.saveBy course identity).2)).session ∧
        (∀ server now amount, ∃ move,
          (c.session.placeBet server now amount).1 = (c.next move).session) ∧
        ∀ server now order, ∃ move,
          (c.session.withdraw server now order).1 = (c.next move).session) := by
  intro o
  refine ⟨?_, s.replaceIdentityBy_snd course identity storage,
    s.replaceIdentityBy_smooth identity storage, ?_⟩
  · rcases s.replaceIdentityBy_cases course identity storage with hfailed | ⟨hok, hsession, hload⟩
    · exact Or.inl hfailed
    · refine Or.inr ⟨hok, hload, ?_, ?_⟩
      · exact congrArg Session.identity hsession
      · exact congrArg (fun t => t.api.publicKey) hsession
  · intro c
    refine ⟨?_, ?_, fun server now amount => ?_, fun server now order => ?_⟩
    · exact SessionCourse.run_speaks (SessionCourse.start_speaks config owner api) moves
    · exact c.session.replaceIdentityBy_fst course identity storage
    · obtain ⟨ready, step, hsession⟩ := c.session.placeBet_fst server now amount
      exact ⟨.betResumed now ready step, hsession⟩
    · obtain ⟨ready, step, hsession⟩ := c.session.withdraw_fst server now order
      exact ⟨.withdrawalResumed now order ready step, hsession⟩

end Session
end LightningLottery
