import MPQuic.StreamsMap.OpenedOnce

/-!
# Frames for streams of this side

A frame of the peer may name a stream that only this side can open. If the stream is not open, then
it was opened and removed, and the frame is ignored, or it was never opened, and the frame is an
error. `GetOrOpenStream` tells the two apart by a comparison with `nextStream`, which is the ID of a
stream that was not opened yet. The comparison lets that ID pass, and on a server also ID 0
(`ownStream_answered_iff`). Once the IDs have gone around it is wrong for all closed streams above.
-/

namespace MPQuic

namespace StreamsMap

namespace OpeningRun

/-- The answer to a frame for a stream of this side. -/
structure Answers (st : OpeningRun) (id : Nat)
    (outcome : Except StreamsMapError (Option Stream)) : Prop where
  isOpen : ∀ s, st.map.streams.lookup id = some s → outcome = .ok (some s)
  isClosed : outcome = .ok none ↔ id ∈ st.opened ∧ id ∉ st.map.streams
  neverOpened : id ∉ st.opened → ∃ side, outcome = .error (.openedFromSide id side)

/-- `GetOrOpenStream` answers as it should. -/
def AnswersRight (st : OpeningRun) (id : Nat) : Prop :=
  ∃ result, st.map.getOrOpenStream st.flow id callRounds = some result ∧
    st.Answers id result.outcome

end OpeningRun

variable (pers : Perspective)

/-- The condition on the ID of a stream that is not open, after `k` streams were opened on this
side: as long as the IDs have not gone around it is neither the next one nor zero, and then it is
at most the next one, and not zero before zero was used. -/
def ToldApart (k nextStream id : Nat) : Prop :=
  if firstStream pers + 2 * k < 2 ^ 32 then id ≠ nextStream ∧ id ≠ 0
  else id ≤ nextStream ∧ (id = 0 → 2 ^ 31 ≤ k)

instance decidableToldApart (pers : Perspective) (k nextStream id : Nat) :
    Decidable (ToldApart pers k nextStream id) := by
  unfold ToldApart
  infer_instance

/-- The IDs of this side that were used. On a server zero comes last. -/
theorem exists_ownID_iff (k : Nat) {id : Nat} (word : id < 2 ^ 32)
    (own : id % 2 = firstStream pers % 2) :
    (∃ j < k, ownID pers j = id) ↔
      if id = 0 then 2 ^ 31 ≤ k else id < firstStream pers + 2 * k := by
  unfold ownID
  have first : firstStream pers = 1 ∨ firstStream pers = 2 := by cases pers <;> simp [firstStream]
  constructor
  · rintro ⟨j, less, used⟩
    split <;> omega
  · intro holds
    split at holds
    · exact ⟨2 ^ 31 - 1, by omega, by omega⟩
    · exact ⟨(id - firstStream pers) / 2, by omega, by omega⟩

theorem toldApart_iff (k : Nat) {id : Nat} (word : id < 2 ^ 32)
    (own : id % 2 = firstStream pers % 2) :
    ToldApart pers k (ownID pers k) id ↔
      ((∃ j < k, ownID pers j = id) ↔ id ≤ ownID pers k) := by
  rw [exists_ownID_iff pers k word own]
  unfold ToldApart ownID
  have first : firstStream pers = 1 ∨ firstStream pers = 2 := by cases pers <;> simp [firstStream]
  split
  · split <;> omega
  · split <;> omega

/-- For an ID of this side the answer only depends on `nextStream`. -/
theorem alreadySettled_own {m : StreamsMap} {id : Nat} (own : id % 2 = m.localParity) :
    ∃ side, m.alreadySettled id =
      some (if id ≤ m.nextStream then .ok none else .error (.openedFromSide id side)) := by
  unfold alreadySettled
  unfold localParity at own
  cases pers : m.perspective with
  | server =>
    rw [pers] at own
    refine ⟨.client, ?_⟩
    dsimp only
    rw [if_pos own]
    split <;> rfl
  | client =>
    rw [pers] at own
    refine ⟨.server, ?_⟩
    dsimp only
    rw [if_pos own]
    split <;> rfl

namespace OpeningRun

variable {pers : Perspective} {k r : Nat} {st : OpeningRun} {id : Nat}

theorem Tracked.answersRight_of_open (tracked : Tracked pers k r st)
    (isOpen : id ∈ st.map.streams) : st.AnswersRight id := by
  obtain ⟨s, found⟩ := MapSum.exists_lookup isOpen
  refine ⟨{ map := st.map, flow := st.flow, outcome := .ok (some s) }, ?_, ?_⟩
  · unfold StreamsMap.getOrOpenStream
    rw [found]
  · refine ⟨fun s' found' => ?_, ⟨fun closed => ?_, fun closed => absurd isOpen closed.2⟩, ?_⟩
    · rw [found] at found'
      rw [Option.some.inj found']
    · cases closed
    · exact fun unopened => absurd (tracked.listed id isOpen) unopened

theorem answersRight_iff_of_not_open (own : id % 2 = st.map.localParity)
    (notOpen : id ∉ st.map.streams) :
    st.AnswersRight id ↔ (id ∈ st.opened ↔ id ≤ st.map.nextStream) := by
  have missing : st.map.streams.lookup id = none := AList.lookup_eq_none.mpr notOpen
  obtain ⟨side, settled⟩ := alreadySettled_own own
  obtain ⟨result, returned, outcome⟩ :
      ∃ result, st.map.getOrOpenStream st.flow id callRounds = some result ∧ result.outcome =
        if id ≤ st.map.nextStream then .ok none else .error (.openedFromSide id side) := by
    unfold StreamsMap.getOrOpenStream
    rw [missing, settled]
    exact ⟨_, rfl, rfl⟩
  constructor
  · rintro ⟨result', returned', answers⟩
    rw [returned] at returned'
    obtain rfl := Option.some.inj returned'
    rw [outcome] at answers
    constructor
    · intro opened
      have closed := answers.isClosed.mpr ⟨opened, notOpen⟩
      split at closed
      · assumption
      · cases closed
    · intro below
      rw [if_pos below] at answers
      exact (answers.isClosed.mp rfl).1
  · intro toldApart
    refine ⟨result, returned, fun s found => ?_, ?_, fun unopened => ?_⟩
    · rw [missing] at found
      cases found
    · rw [outcome]
      split
      · rename_i below
        exact ⟨fun _ => ⟨toldApart.mpr below, notOpen⟩, fun _ => rfl⟩
      · rename_i above
        refine ⟨fun closed => ?_, fun closed => absurd (toldApart.mp closed.1) above⟩
        cases closed
    · rw [outcome, if_neg fun below => unopened (toldApart.mpr below)]
      exact ⟨side, rfl⟩

end OpeningRun

open OpeningRun

/-- Frames for streams of this side are answered right exactly for the open streams and where the
comparison with `nextStream` tells closed streams and unopened ones apart. -/
theorem ownStream_answered_iff (params : ConnectionParametersManager) (ops : List MapOp) :
    ∃ st, OpeningRun.run pers params ops = some st ∧
      ∀ id < 2 ^ 32, id % 2 = st.map.localParity →
        (st.AnswersRight id ↔ id ∈ st.map.streams ∨
          ToldApart pers st.openedHere.length st.map.nextStream id) := by
  obtain ⟨st, k, r, reached, tracked⟩ := (Tracked.new pers params).run ops
  refine ⟨st, reached, fun id word own => ?_⟩
  by_cases isOpen : id ∈ st.map.streams
  · exact ⟨fun _ => Or.inl isOpen, fun _ => tracked.answersRight_of_open isOpen⟩
  · have parity : id % 2 = firstStream pers % 2 := by
      rw [own, localParity_eq_firstStream, tracked.perspective]
    rw [answersRight_iff_of_not_open own isOpen, tracked.mem_own_iff (decide_eq_true parity),
      tracked.length_openedHere, tracked.nextStream, toldApart_iff pers k word parity]
    exact ⟨Or.inr, fun either => either.resolve_left isOpen⟩

/-- A server that has opened nothing ignores a frame for stream 2, which is an error. -/
theorem ownStream_next_ignored :
    let st := start .server (serverParameters 0 0)
    (∃ result, st.map.getOrOpenStream st.flow 2 callRounds = some result ∧
      result.outcome = .ok none) ∧ 2 ∉ st.opened ∧ ¬st.AnswersRight 2 := by
  intro st
  have ignored : st.map.getOrOpenStream st.flow 2 callRounds =
      some { map := st.map, flow := st.flow, outcome := .ok none } := rfl
  refine ⟨⟨_, ignored, rfl⟩, List.not_mem_nil, ?_⟩
  rintro ⟨result, returned, answers⟩
  rw [ignored] at returned
  obtain rfl := Option.some.inj returned
  exact absurd (answers.isClosed.mp rfl).1 List.not_mem_nil

end StreamsMap

end MPQuic
