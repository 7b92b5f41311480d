import MPQuic.Scheduler.Retransmission

/-!
# The selected path

What `selectPathLowLatency` and `selectPathUnreliable` return in a session of several paths,
whatever the order in which their loops visit the paths.

The loop of `selectPathLowLatency` finds the lowest RTT among the paths that may be used, and the
least used path as long as none of them has an RTT estimate. It does not ask whether a path is open
when packets are sent again, the steering in front of it asks nothing about the path that it
returns, and `selectPathUnreliable` never asks whether a path is open.

* `selectPathLowLatency_optimal`: what the loop of `selectPathLowLatency` returns.
* `selectsAlive_iff`: in which states every path that is returned is alive.
-/

namespace MPQuic

open PathTable

/-- The path is open, and has not potentially failed. -/
def Path.Alive (pth : Path) : Prop := pth.isOpen = true ∧ pth.potentiallyFailed = false

namespace Session

/-! ## The two selections -/

/-- The paths that `selectPathLowLatency` may select. -/
def EligibleLowLatency (hasRetransmission : Bool) (pth : Path) : Prop :=
  (hasRetransmission = true ∨ pth.sendingAllowed = true) ∧ pth.potentiallyFailed = false ∧
    pth.pathID ≠ initialPathID

variable (s : Session)

/-- The paths that `selectPathUnreliable` may select. -/
def EligibleUnreliable (pth : Path) : Prop :=
  pth.potentiallyFailed = false ∧ pth.pathID ≠ initialPathID ∧
    s.scheduler.quotas2 pth.pathID < maxQuota

variable (s : Session) (hasRetransmission : Bool)
  {selected pth : Path}

theorem considers_lowLatency :
    Selection.Considers (EligibleLowLatency hasRetransmission)
      (s.considerLowLatency hasRetransmission) where
  first := by
    intro pth
    unfold considerLowLatency EligibleLowLatency
    cases hasRetransmission <;> cases pth.sendingAllowed <;> cases pth.potentiallyFailed <;> simp
  later := by
    intro selected pth
    unfold considerLowLatency
    simp only
    repeat' split
    all_goals exact Option.some_ne_none _

theorem considers_unreliable : Selection.Considers s.EligibleUnreliable s.considerUnreliable where
  first := by
    intro pth
    unfold considerUnreliable EligibleUnreliable
    cases pth.potentiallyFailed <;> simp
  later := by
    intro selected pth
    unfold considerUnreliable
    simp only
    repeat' split
    all_goals exact Option.some_ne_none _

/-! ## The loop of `selectPathLowLatency` -/

/-- `p` is at least as good as `q`: paths with an RTT estimate come first, by their RTT, and then
the others, by the number of packets that were sent on them. -/
def NotSlower (p q : Path) : Prop :=
  if p.smoothedRTT ≠ 0 then q.smoothedRTT ≠ 0 → p.smoothedRTT ≤ q.smoothedRTT
  else q.smoothedRTT = 0 ∧ s.scheduler.quotas p.pathID ≤ s.scheduler.quotas q.pathID

theorem notSlower_refl (p : Path) : s.NotSlower p p := by
  unfold NotSlower
  split
  · exact fun _ => le_rfl
  · rename_i unprobed
    exact ⟨not_not.mp unprobed, le_rfl⟩

theorem notSlower_trans {s : Session} {p q r : Path} (first : s.NotSlower p q)
    (second : s.NotSlower q r) : s.NotSlower p r := by
  unfold NotSlower at *
  by_cases probed : p.smoothedRTT ≠ 0
  · rw [if_pos probed] at first ⊢
    intro probedR
    by_cases probedQ : q.smoothedRTT ≠ 0
    · rw [if_pos probedQ] at second
      exact le_trans (first probedQ) (second probedR)
    · rw [if_neg probedQ] at second
      exact absurd second.1 probedR
  · rw [if_neg probed] at first ⊢
    rw [if_neg (not_not.mpr first.1)] at second
    exact ⟨second.1, le_trans first.2 second.2⟩

/-- The comparison between the path that is selected so far and another one that may be used. -/
theorem considerLowLatency_some {s : Session} {hasRetransmission : Bool}
    (eligible : EligibleLowLatency hasRetransmission pth) :
    s.considerLowLatency hasRetransmission (some selected) pth =
      if selected.smoothedRTT ≠ 0 ∧ pth.smoothedRTT = 0 ∨
          pth.smoothedRTT = 0 ∧
            s.scheduler.quotas pth.pathID > s.scheduler.quotas selected.pathID ∨
          pth.smoothedRTT ≠ 0 ∧ selected.smoothedRTT ≠ 0 ∧
            pth.smoothedRTT ≥ selected.smoothedRTT
      then some selected else some pth := by
  obtain ⟨allowed, working, other⟩ := eligible
  have usable : (!hasRetransmission && !pth.sendingAllowed) = false := by
    rcases allowed with retransmits | allowed
    · simp [retransmits]
    · simp [allowed]
  unfold considerLowLatency
  simp only [usable, working, if_neg other, Bool.false_eq_true, if_false, Option.map_some,
    Option.getD_some, Option.any_some, Option.isSome_some, true_and, decide_eq_true_eq]
  by_cases unprobed : selected.smoothedRTT ≠ 0 ∧ pth.smoothedRTT = 0
  · rw [if_pos unprobed, if_pos (Or.inl unprobed)]
  · rw [if_neg unprobed]
    by_cases used : pth.smoothedRTT = 0 ∧
        s.scheduler.quotas pth.pathID > s.scheduler.quotas selected.pathID
    · rw [if_pos used, if_pos (Or.inr (Or.inl used))]
    · rw [if_neg used]
      by_cases slower : pth.smoothedRTT ≠ 0 ∧ selected.smoothedRTT ≠ 0 ∧
          pth.smoothedRTT ≥ selected.smoothedRTT
      · rw [if_pos slower, if_pos (Or.inr (Or.inr slower))]
      · rw [if_neg slower, if_neg (by tauto)]

theorem picks_lowLatency :
    Selection.Picks (EligibleLowLatency hasRetransmission) s.NotSlower
      (s.considerLowLatency hasRetransmission) where
  toConsiders := s.considers_lowLatency hasRetransmission
  refl := s.notSlower_refl
  trans := fun _ _ _ => notSlower_trans
  begins := by
    intro pth eligible
    obtain ⟨allowed, working, other⟩ := eligible
    unfold considerLowLatency
    cases hasRetransmission <;> simp_all
  skips := by
    intro selected pth _ ineligible
    unfold EligibleLowLatency at ineligible
    unfold considerLowLatency
    cases hasRetransmission <;> cases allowed : pth.sendingAllowed <;>
      cases failed : pth.potentiallyFailed <;> simp_all
  compares := by
    intro selected pth _ eligible
    rw [considerLowLatency_some eligible]
    unfold NotSlower
    by_cases probed : pth.smoothedRTT = 0 <;> by_cases found : selected.smoothedRTT = 0
    · rcases lt_or_ge (s.scheduler.quotas selected.pathID) (s.scheduler.quotas pth.pathID)
        with less | more
      · exact Or.inl (by simp [probed, found, less, less.le])
      · exact Or.inr (by simp [probed, found, more])
    · exact Or.inl (by simp [probed, found])
    · exact Or.inr (by simp [probed, found])
    · rcases lt_or_ge pth.smoothedRTT selected.smoothedRTT with faster | slower
      · exact Or.inr (by simp [probed, found, faster, faster.le])
      · exact Or.inl (by simp [probed, found, slower])

/-- In a session of several paths whose selection loop is reached, `selectPathLowLatency` returns no
path exactly if no path may be used. Otherwise it returns one with the lowest RTT among those with
an RTT estimate, or, if there is none, one on which the fewest packets were sent. The order in which
the loop visits the paths does not matter. -/
theorem selectPathLowLatency_optimal
    (hasRetransmission hasStreamRetransmission : Bool) (fromPth : Option Path) (env : SelectEnv)
    (several : 1 < s.paths.length)
    (reached : s.selectForUnprobed hasRetransmission hasStreamRetransmission fromPth env.lessUsed =
      .ok none) :
    ∃ selected,
      s.selectPathLowLatency hasRetransmission hasStreamRetransmission fromPth env =
          .ok selected ∧
        (selected = none ↔ ∀ pathID pth, s.paths.lookup pathID = some pth →
          ¬ EligibleLowLatency hasRetransmission pth) ∧
        ∀ best, selected = some best →
          s.paths.lookup best.pathID = some best ∧ EligibleLowLatency hasRetransmission best ∧
          ((∃ pathID pth, s.paths.lookup pathID = some pth ∧
              EligibleLowLatency hasRetransmission pth ∧ pth.smoothedRTT ≠ 0) →
            best.smoothedRTT ≠ 0 ∧ ∀ pathID pth, s.paths.lookup pathID = some pth →
              EligibleLowLatency hasRetransmission pth → pth.smoothedRTT ≠ 0 →
                best.smoothedRTT ≤ pth.smoothedRTT) ∧
          ((∀ pathID pth, s.paths.lookup pathID = some pth →
              EligibleLowLatency hasRetransmission pth → pth.smoothedRTT = 0) →
            ∀ pathID pth, s.paths.lookup pathID = some pth →
              EligibleLowLatency hasRetransmission pth →
                s.scheduler.quotas best.pathID ≤ s.scheduler.quotas pth.pathID) := by
  have rounds := s.picks_lowLatency hasRetransmission
  refine ⟨(s.paths.visited env.lowLatency).foldl (s.considerLowLatency hasRetransmission) none,
    ?_, ?_, ?_⟩
  · unfold selectPathLowLatency
    rw [if_neg (not_le.mpr several), reached]
  · rw [rounds.foldl_eq_none_iff, forall_visited_iff]
  · intro best found
    obtain ⟨visited, eligible, least⟩ := rounds.foldl_eq_some found
    rw [forall_visited_iff] at least
    unfold NotSlower at least
    refine ⟨mem_visited.mp visited, eligible, ?_, ?_⟩
    · rintro ⟨pathID, pth, known, able, probed⟩
      have probedBest : best.smoothedRTT ≠ 0 := by
        intro unprobed
        have worse := least pathID pth known able
        rw [if_neg (not_not.mpr unprobed)] at worse
        exact probed worse.1
      simp only [if_pos probedBest] at least
      exact ⟨probedBest, least⟩
    · intro unprobed pathID pth known able
      have unprobedBest := unprobed best.pathID best (mem_visited.mp visited) eligible
      have less := least pathID pth known able
      rw [if_neg (not_not.mpr unprobedBest)] at less
      exact less.2

/-- Two paths besides the initial one, the second one with the lower RTT. -/
def twoPathClient : Session :=
  { earlyClient with
    paths := ((PathTable.empty.set firstPath).set
      { firstPath with pathID := 1, smoothedRTT := 40 }).set
      { firstPath with pathID := 3, smoothedRTT := 20 } }

theorem selectPathLowLatency_optimal_twoPaths :
    ∃ selected, twoPathClient.selectPathLowLatency false false none {} = .ok selected ∧
      (selected = none ↔ ∀ pathID pth, twoPathClient.paths.lookup pathID = some pth →
        ¬ EligibleLowLatency false pth) ∧
      ∀ best, selected = some best →
        twoPathClient.paths.lookup best.pathID = some best ∧ EligibleLowLatency false best ∧
        ((∃ pathID pth, twoPathClient.paths.lookup pathID = some pth ∧
            EligibleLowLatency false pth ∧ pth.smoothedRTT ≠ 0) →
          best.smoothedRTT ≠ 0 ∧ ∀ pathID pth, twoPathClient.paths.lookup pathID = some pth →
            EligibleLowLatency false pth → pth.smoothedRTT ≠ 0 →
              best.smoothedRTT ≤ pth.smoothedRTT) ∧
        ((∀ pathID pth, twoPathClient.paths.lookup pathID = some pth →
            EligibleLowLatency false pth → pth.smoothedRTT = 0) →
          ∀ pathID pth, twoPathClient.paths.lookup pathID = some pth →
            EligibleLowLatency false pth →
              twoPathClient.scheduler.quotas best.pathID ≤
                twoPathClient.scheduler.quotas pth.pathID) :=
  selectPathLowLatency_optimal twoPathClient false false none {} (by decide) rfl

/-! ## Which paths the loops can return -/

/-- In some order a loop over the paths starts with the given one, and keeps it if no other path
replaces it. -/
theorem exists_foldl_first {s : Session} {eligible : Path → Prop}
    {le : Path → Path → Prop} {consider : Option Path → Path → Option Path}
    (rounds : Selection.Picks eligible le consider)
    (known : s.paths.lookup pth.pathID = some pth) (able : eligible pth)
    (keeps : ∀ pathID other, s.paths.lookup pathID = some other → eligible other →
      consider (some pth) other = some pth) :
    ∃ order, (s.paths.visited order).foldl consider none = some pth := by
  obtain ⟨order, rest, visited⟩ := exists_visited_first known
  refine ⟨order, ?_⟩
  rw [visited]
  refine rounds.foldl_of_first able fun other mem ableOther => ?_
  have seen : other ∈ s.paths.visited order := by
    rw [visited]
    exact List.mem_cons_of_mem _ mem
  exact keeps _ other (mem_visited.mp seen) ableOther

/-- No path that `selectPathLowLatency` may select is better than this one. -/
structure BestLowLatency (s : Session) (hasRetransmission : Bool) (pth : Path) : Prop where
  known : s.paths.lookup pth.pathID = some pth
  eligible : EligibleLowLatency hasRetransmission pth
  least : ∀ pathID other, s.paths.lookup pathID = some other →
    EligibleLowLatency hasRetransmission other → s.NotSlower pth other

/-- The loop returns every best path, in some order. -/
theorem bestLowLatency_iff (pth : Path) :
    (∃ order, (s.paths.visited order).foldl (s.considerLowLatency hasRetransmission) none =
      some pth) ↔ s.BestLowLatency hasRetransmission pth := by
  have rounds := s.picks_lowLatency hasRetransmission
  constructor
  · rintro ⟨order, found⟩
    obtain ⟨visited, eligible, least⟩ := rounds.foldl_eq_some found
    exact ⟨mem_visited.mp visited, eligible, forall_visited_iff.mp least⟩
  · rintro ⟨known, eligible, least⟩
    unfold NotSlower at least
    by_cases probed : pth.smoothedRTT ≠ 0
    · -- among paths with the same RTT the first one is kept
      refine exists_foldl_first rounds known eligible fun _ other found able => ?_
      have slower := least _ other found able
      rw [if_pos probed] at slower
      rw [considerLowLatency_some able]
      by_cases probedOther : other.smoothedRTT = 0
      · rw [if_pos (Or.inl ⟨probed, probedOther⟩)]
      · rw [if_pos (Or.inr (Or.inr ⟨probedOther, probed, slower probedOther⟩))]
    · -- among paths with the same number of packets the last one is kept
      obtain ⟨order, rest, visited⟩ := exists_visited_last known
      refine ⟨order, ?_⟩
      rw [visited]
      refine rounds.foldl_of_last eligible fun other mem able => ?_
      have seen : other ∈ s.paths.visited order := by
        rw [visited]
        exact List.mem_append_left _ mem
      have more := least _ other (mem_visited.mp seen) able
      rw [if_neg probed] at more
      rw [not_not] at probed
      rw [considerLowLatency_some eligible, if_neg]
      rintro (⟨probedOther, -⟩ | ⟨-, less⟩ | ⟨probedPth, -⟩)
      · exact probedOther more.1
      · exact absurd more.2 (not_le.mpr less)
      · exact probedPth probed

/-- No path that `selectPathUnreliable` may select has a lower counter than this one. -/
structure BestUnreliable (s : Session) (pth : Path) : Prop where
  known : s.paths.lookup pth.pathID = some pth
  eligible : s.EligibleUnreliable pth
  least : ∀ pathID other, s.paths.lookup pathID = some other → s.EligibleUnreliable other →
    s.scheduler.quotas2 pth.pathID ≤ s.scheduler.quotas2 other.pathID

theorem considerUnreliable_some {s : Session} (eligible : s.EligibleUnreliable pth) :
    s.considerUnreliable (some selected) pth =
      if s.scheduler.quotas2 pth.pathID < s.scheduler.quotas2 selected.pathID then some pth
      else some selected := by
  obtain ⟨working, other, -⟩ := eligible
  unfold considerUnreliable
  simp [working, other]

theorem picks_unreliable :
    Selection.Picks s.EligibleUnreliable
      (fun p q => s.scheduler.quotas2 p.pathID ≤ s.scheduler.quotas2 q.pathID)
      s.considerUnreliable where
  toConsiders := s.considers_unreliable
  refl := fun _ => le_rfl
  trans := fun _ _ _ => le_trans
  begins := by
    intro pth eligible
    obtain ⟨working, other, below⟩ := eligible
    unfold considerUnreliable
    simp [working, other, below]
  skips := by
    intro selected pth able ineligible
    have below := able.2.2
    unfold EligibleUnreliable at ineligible
    unfold considerUnreliable
    cases failed : pth.potentiallyFailed with
    | true => simp
    | false =>
      by_cases initial : pth.pathID = initialPathID
      · simp [initial]
      · have full : maxQuota ≤ s.scheduler.quotas2 pth.pathID := by
          simpa [failed, initial] using ineligible
        simp [initial, not_lt.mpr (le_trans below.le full)]
  compares := by
    intro selected pth _ eligible
    rw [considerUnreliable_some eligible]
    split
    · rename_i less
      exact Or.inr ⟨rfl, less.le⟩
    · rename_i more
      exact Or.inl ⟨rfl, not_lt.mp more⟩

theorem bestUnreliable_iff (pth : Path) :
    (∃ order, (s.paths.visited order).foldl s.considerUnreliable none = some pth) ↔
      s.BestUnreliable pth := by
  have rounds := s.picks_unreliable
  constructor
  · rintro ⟨order, found⟩
    obtain ⟨visited, eligible, least⟩ := rounds.foldl_eq_some found
    exact ⟨mem_visited.mp visited, eligible, forall_visited_iff.mp least⟩
  · rintro ⟨known, eligible, least⟩
    refine exists_foldl_first rounds known eligible fun _ other found able => ?_
    have more := least _ other found able
    rw [considerUnreliable_some able, if_neg (not_lt.mpr more)]

/-- Fewer packets were sent on this path than on the one whose frames are sent again. -/
structure LessUsed (s : Session) (fromPth pth : Path) : Prop where
  known : s.paths.lookup pth.pathID = some pth
  notInitial : pth.pathID ≠ initialPathID
  other : pth.pathID ≠ fromPth.pathID
  less : s.scheduler.quotas pth.pathID < s.scheduler.quotas fromPth.pathID

theorem lessUsed_iff (fromPth pth : Path) :
    (∃ order, s.selectLessUsed fromPth order = some pth) ↔ s.LessUsed fromPth pth := by
  unfold selectLessUsed
  constructor
  · rintro ⟨order, found⟩
    have seen := List.mem_of_find?_eq_some found
    have chosen := List.find?_some found
    simp only [ne_eq, decide_eq_true_eq] at chosen
    exact ⟨mem_visited.mp seen, chosen.1, chosen.2.1, chosen.2.2⟩
  · rintro ⟨known, notInitial, other, less⟩
    obtain ⟨order, rest, visited⟩ := exists_visited_first known
    refine ⟨order, ?_⟩
    rw [visited, List.find?_cons_of_pos]
    simp [notInitial, other, less]

theorem selectLessUsed_eq_none_iff (fromPth : Path) (order : List PathID) :
    s.selectLessUsed fromPth order = none ↔ ∀ pth, ¬ s.LessUsed fromPth pth := by
  constructor
  · intro nothing pth used
    unfold selectLessUsed at nothing
    rw [List.find?_eq_none] at nothing
    refine nothing pth (mem_visited.mpr used.known) ?_
    simp [used.notInitial, used.other, used.less]
  · intro nothing
    cases found : s.selectLessUsed fromPth order with
    | none => rfl
    | some pth => exact absurd ((s.lessUsed_iff fromPth pth).mp ⟨order, found⟩) (nothing pth)

/-- The steering in front of the loop is passed without a result. -/
def ReachesLoop (hasRetransmission hasStreamRetransmission : Bool) (fromPth : Option Path) : Prop :=
  hasRetransmission = true → hasStreamRetransmission = true →
    ∃ f, fromPth = some f ∧ (f.smoothedRTT = 0 → ∀ pth, ¬ s.LessUsed f pth)

theorem selectForUnprobed_none_iff
    (hasRetransmission hasStreamRetransmission : Bool) (fromPth : Option Path)
    (order : List PathID) :
    s.selectForUnprobed hasRetransmission hasStreamRetransmission fromPth order = .ok none ↔
      s.ReachesLoop hasRetransmission hasStreamRetransmission fromPth := by
  unfold selectForUnprobed ReachesLoop
  cases hasRetransmission <;> cases hasStreamRetransmission <;> cases fromPth <;> simp
  rename_i fromPth
  by_cases unprobed : fromPth.smoothedRTT = 0
  · simp [unprobed, selectLessUsed_eq_none_iff]
  · simp [unprobed]

/-- What `selectPathLowLatency` can return when there are several paths. -/
theorem selectPathLowLatency_some_iff
    (hasRetransmission hasStreamRetransmission : Bool) (fromPth : Option Path) (pth : Path)
    (several : 1 < s.paths.length) :
    (∃ env, s.selectPathLowLatency hasRetransmission hasStreamRetransmission fromPth env =
        .ok (some pth)) ↔
      (hasRetransmission = true ∧ hasStreamRetransmission = true ∧
        ∃ f, fromPth = some f ∧ f.smoothedRTT = 0 ∧ s.LessUsed f pth) ∨
      (s.ReachesLoop hasRetransmission hasStreamRetransmission fromPth ∧
        s.BestLowLatency hasRetransmission pth) := by
  unfold selectPathLowLatency
  simp only [if_neg (not_le.mpr several)]
  constructor
  · rintro ⟨env, returned⟩
    cases steered : s.selectForUnprobed hasRetransmission hasStreamRetransmission fromPth
        env.lessUsed with
    | error abort =>
      rw [steered] at returned
      cases returned
    | ok selected =>
      rw [steered] at returned
      cases selected with
      | none =>
        refine Or.inr ⟨(s.selectForUnprobed_none_iff _ _ _ _).mp steered, ?_⟩
        exact (s.bestLowLatency_iff hasRetransmission pth).mp ⟨_, Except.ok.inj returned⟩
      | some other =>
        cases returned
        unfold selectForUnprobed at steered
        cases hasRetransmission <;> cases hasStreamRetransmission <;> cases fromPth <;>
          simp at steered
        rename_i fromPth
        exact Or.inl ⟨rfl, rfl, fromPth, rfl, steered.1,
          (s.lessUsed_iff fromPth pth).mp ⟨_, steered.2⟩⟩
  · rintro (⟨rfl, rfl, f, rfl, unprobed, used⟩ | ⟨reached, best⟩)
    · obtain ⟨order, found⟩ := (s.lessUsed_iff f pth).mpr used
      refine ⟨{ lessUsed := order }, ?_⟩
      simp [selectForUnprobed, unprobed, found]
    · obtain ⟨order, found⟩ := (s.bestLowLatency_iff hasRetransmission pth).mpr best
      refine ⟨{ lowLatency := order }, ?_⟩
      rw [(s.selectForUnprobed_none_iff _ _ _ _).mpr reached]
      simp [found]

/-! ## Dead paths -/

/-- Whatever the two selections return is alive, and may send if nothing is sent again. -/
def SelectsAlive (hasRetransmission hasStreamRetransmission : Bool)
    (fromPth : Option Path) : Prop :=
  ∀ env pth,
    (s.selectPathLowLatency hasRetransmission hasStreamRetransmission fromPth env =
        .ok (some pth) →
      pth.Alive ∧ (hasRetransmission = false → hasStreamRetransmission = false →
        pth.sendingAllowed = true)) ∧
    (s.selectPathUnreliable hasRetransmission env = .ok (some pth) → pth.Alive)

/-- The paths that are tried first are alive. -/
structure FirstChoicesAlive (s : Session) (hasRetransmission hasStreamRetransmission : Bool)
    (fromPth : Option Path) : Prop where
  /-- while frames of a path without an RTT estimate are sent again -/
  lessUsed : hasRetransmission = true → hasStreamRetransmission = true →
    ∀ f, fromPth = some f → f.smoothedRTT = 0 → ∀ pth, s.LessUsed f pth → pth.Alive
  /-- while other packets are sent again, or if no path was used less -/
  lowLatency : hasRetransmission = true →
    s.ReachesLoop hasRetransmission hasStreamRetransmission fromPth →
      ∀ pth, s.BestLowLatency true pth → pth.isOpen = true
  unreliable : ∀ pth, s.BestUnreliable pth → pth.isOpen = true

theorem isOpen_of_sendingAllowed (allowed : pth.sendingAllowed = true) : pth.isOpen = true := by
  unfold Path.sendingAllowed at allowed
  exact (Bool.and_eq_true_iff.mp allowed).1

/-- In a session of several paths no dead path is selected, whatever the flags and the orders of the
loops, exactly if the paths that are tried first are alive. Whether they have potentially failed is
only left open while frames of a path without an RTT estimate are sent again. -/
theorem selectsAlive_iff (hasRetransmission hasStreamRetransmission : Bool)
    (fromPth : Option Path) (several : 1 < s.paths.length) :
    s.SelectsAlive hasRetransmission hasStreamRetransmission fromPth ↔
      s.FirstChoicesAlive hasRetransmission hasStreamRetransmission fromPth := by
  have returns := fun pth => s.selectPathLowLatency_some_iff hasRetransmission
    hasStreamRetransmission fromPth pth several
  have unreliable : ∀ env, s.selectPathUnreliable hasRetransmission env =
      .ok ((s.paths.visited env.unreliable).foldl s.considerUnreliable none) :=
    fun env => if_neg (not_le.mpr several)
  constructor
  · intro alive
    refine ⟨?_, ?_, ?_⟩
    · intro retransmits streams f last unprobed pth used
      obtain ⟨env, returned⟩ := (returns pth).mpr
        (Or.inl ⟨retransmits, streams, f, last, unprobed, used⟩)
      exact ((alive env pth).1 returned).1
    · intro retransmits reached pth best
      obtain ⟨env, returned⟩ := (returns pth).mpr (Or.inr ⟨reached, retransmits ▸ best⟩)
      exact ((alive env pth).1 returned).1.1
    · intro pth best
      obtain ⟨order, found⟩ := (s.bestUnreliable_iff pth).mpr best
      exact ((alive { unreliable := order } pth).2 ((unreliable _).trans (congrArg _ found))).1
  · rintro ⟨lessUsed, lowLatency, least⟩ env pth
    constructor
    · intro returned
      rcases (returns pth).mp ⟨env, returned⟩ with
        ⟨retransmits, streams, f, last, unprobed, used⟩ | ⟨reached, best⟩
      · refine ⟨lessUsed retransmits streams f last unprobed pth used, ?_⟩
        intro nothing
        rw [retransmits] at nothing
        cases nothing
      · have working := best.eligible.2.1
        cases hasRetransmission with
        | true =>
          refine ⟨⟨lowLatency rfl reached pth best, working⟩, ?_⟩
          intro nothing
          cases nothing
        | false =>
          have allowed : pth.sendingAllowed = true :=
            best.eligible.1.resolve_left Bool.false_ne_true
          exact ⟨⟨isOpen_of_sendingAllowed allowed, working⟩, fun _ _ => allowed⟩
    · intro returned
      rw [unreliable, Except.ok.injEq] at returned
      have best := (s.bestUnreliable_iff pth).mp ⟨_, returned⟩
      exact ⟨least pth best, best.eligible.1⟩

/-- A client whose second path is closed. -/
def closedPathClient : Session :=
  { earlyClient with
    paths := (PathTable.empty.set firstPath).set { firstPath with pathID := 1, isOpen := false } }

/-- Both selections return the closed path: the first one when a packet is sent again, the second
one in any case. -/
theorem closedPathClient_selected :
    closedPathClient.selectPathLowLatency true false (some firstPath) {} =
        .ok (some { firstPath with pathID := 1, isOpen := false }) ∧
      closedPathClient.selectPathUnreliable false {} =
        .ok (some { firstPath with pathID := 1, isOpen := false }) ∧
      ¬ closedPathClient.SelectsAlive true false (some firstPath) ∧
      ¬ closedPathClient.SelectsAlive false false none := by
  have first : closedPathClient.selectPathLowLatency true false (some firstPath) {} =
      .ok (some { firstPath with pathID := 1, isOpen := false }) := rfl
  have second : closedPathClient.selectPathUnreliable false {} =
      .ok (some { firstPath with pathID := 1, isOpen := false }) := rfl
  refine ⟨first, second, ?_, ?_⟩
  · intro alive
    exact absurd ((alive {} _).1 first).1.1 (by decide)
  · intro alive
    exact absurd ((alive {} _).2 second).1 (by decide)

/-- Where all paths are open and nothing is sent again, the selections are safe. -/
theorem twoPathClient_selectsAlive : twoPathClient.SelectsAlive false false none := by
  have allOpen : ∀ pathID pth, twoPathClient.paths.lookup pathID = some pth →
      pth.isOpen = true := by
    exact forall_visited_iff.mp (show ∀ pth ∈ twoPathClient.paths.visited [], _ by decide)
  refine (selectsAlive_iff twoPathClient false false none (by decide)).mpr ⟨?_, ?_, ?_⟩
  · intro retransmits
    cases retransmits
  · intro retransmits
    cases retransmits
  · exact fun pth best => allOpen _ pth best.known

end Session

end MPQuic
