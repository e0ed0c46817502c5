import PrimeReasoner.Proofs.Collision
import PrimeReasoner.Proofs.Reachability
import PrimeReasoner.Proofs.Trail

/-!
# The reasons that are given

A question that is answered with no comes with a reason, and the reason is made up at the end, from counters and
numbers that the whole search has collected.  This file says what the reason tells about the goals that the search
has decided.

**The reasons.**  The reason is a cutoff exactly if some goal lies too deep, whatever became of the others.
Otherwise it is a circle exactly if some goal with the number of the question was met again, and if there is no such
goal either, there is nothing to say (`Graph.refused_cases`).  The three texts differ, so the text tells the
reason (`Verdict.explanation_iff`).

**Circles are real**, up to the order of the concepts: a goal with the number of the question has the same concepts,
and the search has come to it along the steps from the question (`explanation_of_refusal`).
-/

namespace PrimeReasoner

/-- **The text tells the reason**, the levels aside. -/
lemma Verdict.explanation_iff {goal : Fact} {reason : Refusal} (hlevels : reason ≠ .outOfLevels) :
    ((refused reason).explanation goal = s!"Maximum reasoning depth exceeded: {goal.text}" ↔
      reason = .tooDeep) ∧
    ((refused reason).explanation goal = s!"Circular reasoning detected: {goal.text}" ↔ reason = .circular) ∧
    ((refused reason).explanation goal = s!"Could not deduce: {goal.text}" ↔ reason = .underivable) := by
  unfold explanation Refusal.explanation
  rw [← String.toList_inj, ← String.toList_inj, ← String.toList_inj]
  cases reason <;> simp_all [toString]

namespace Walk

variable {walk : Walk} {code before : ℕ}

lemma refusal_eq_tooDeep_iff : walk.refusal code before = .tooDeep ↔ before < walk.effort.cutoffs := by
  unfold refusal
  split_ifs <;> simp_all

lemma refusal_eq_circular_iff (hcutoffs : ¬ before < walk.effort.cutoffs) :
    walk.refusal code before = .circular ↔ code ∈ walk.looped := by
  unfold refusal
  rw [if_neg hcutoffs]
  split_ifs <;> simp_all

lemma refusal_eq_underivable_iff (hcutoffs : ¬ before < walk.effort.cutoffs) :
    walk.refusal code before = .underivable ↔ code ∉ walk.looped := by
  unfold refusal
  rw [if_neg hcutoffs]
  split_ifs <;> simp_all

end Walk

/-- Some goal lies too deep. -/
def CutOff (meetings : List Meeting) : Prop := ∃ meeting ∈ meetings, meeting.fate = .tooDeep

instance (meetings : List Meeting) : Decidable (CutOff meetings) :=
  inferInstanceAs (Decidable (∃ meeting ∈ meetings, meeting.fate = .tooDeep))

lemma cutoffs_account_pos_iff {meetings : List Meeting} : 0 < (account meetings).cutoffs ↔ CutOff meetings := by
  simp [account, CutOff, List.count_pos_iff]

namespace Graph

variable {graph : Graph} {limit : Int} {levels depth : ℕ} {pending : List Fact} {goal : Fact} {walk : Walk}
  {reason : Refusal}

/-- The reason for the refusal of a goal that was not met before can be read off the walk. -/
lemma reason_eq (hnew : goal.text ∉ walk.visited)
    (h : (graph.search limit levels depth pending goal walk).1 = some (.refused reason)) :
    reason = (graph.search limit levels depth pending goal walk).2.refusal (graph.code goal)
      walk.effort.cutoffs := by
  cases levels with
  | zero => simp [search] at h
  | succ levels =>
      unfold search at h ⊢
      rw [if_neg hnew] at h ⊢
      split_ifs at h ⊢ with hlimit hheld
      · obtain rfl : Refusal.tooDeep = reason := by simpa using h
        exact (Walk.refusal_eq_tooDeep_iff.mpr (Nat.lt_succ_self _)).symm
      · simp at h
      · rcases hrun : tryWays (graph.search limit levels (depth + 1) (goal :: pending)) goal
          (graph.ways goal) ((walk.reach depth).visit goal.text).expand with ⟨_ | _ | derivation, later⟩
        all_goals rw [hrun] at h
        · simp at h
        · exact (Verdict.refused.inj (Option.some.inj h)).symm
        · simp at h

/-- **The reasons**, by what happened to the goals that the search has decided. -/
lemma refused_cases (h : (graph.search limit levels 0 [] goal {}).1 = some (.refused reason)) :
    let meetings := graph.meetings limit levels 0 [] goal {}
    let again := ∃ meeting ∈ meetings, meeting.fate = .again ∧ graph.code meeting.goal = graph.code goal
    (reason = .tooDeep ↔ CutOff meetings) ∧
      (¬ CutOff meetings → ((reason = .circular ↔ again) ∧ (reason = .underivable ↔ ¬ again))) := by
  intro meetings again
  have hwalk : (graph.search limit levels 0 [] goal {}).2 = meetings.foldl (Walk.meet graph) {} :=
    graph.search_snd limit levels 0 [] goal {}
  have hcutoffs : 0 < (meetings.foldl (Walk.meet graph) {}).effort.cutoffs ↔ CutOff meetings := by
    rw [effort_foldl_meet, ← cutoffs_account_pos_iff]
    simp [Effort.merge]
  have hagain : graph.code goal ∈ (meetings.foldl (Walk.meet graph) {}).looped ↔ again := by
    rw [mem_looped_foldl_meet]
    simp [again]
  rw [reason_eq List.not_mem_nil h, hwalk]
  refine ⟨Walk.refusal_eq_tooDeep_iff.trans hcutoffs, fun hnone => ?_⟩
  rw [← hcutoffs] at hnone
  exact ⟨(Walk.refusal_eq_circular_iff hnone).trans hagain,
    (Walk.refusal_eq_underivable_iff hnone).trans (not_congr hagain)⟩

/-- **Where a goal that was met again comes from**: the search has followed at least one step to it. -/
lemma transGen_of_met_again {leads : Fact → Fact → Prop} {domain : Fact → Prop} (hclosed : graph.IsClosed domain)
    (hdomain : domain goal)
    (hleads : ∀ goal, domain goal → ∀ way ∈ graph.ways goal, ∀ premise ∈ way.premises goal, leads goal premise)
    {meeting : Meeting} (hmeeting : meeting ∈ graph.meetings limit levels 0 [] goal {})
    (hagain : meeting.fate = .again) :
    domain meeting.goal ∧ Relation.TransGen leads goal meeting.goal := by
  have hreached : graph.IsClosed fun other => domain other ∧ Relation.TransGen leads goal other :=
    fun other hother way hway premise hpremise =>
      ⟨hclosed other hother.1 way hway premise hpremise,
        hother.2.tail (hleads other hother.1 way hway premise hpremise)⟩
  have hpremises : ∀ way ∈ graph.ways goal, ∀ premise ∈ way.premises goal,
      domain premise ∧ Relation.TransGen leads goal premise := fun way hway premise hpremise =>
    ⟨hclosed goal hdomain way hway premise hpremise, .single (hleads goal hdomain way hway premise hpremise)⟩
  rcases mem_meetings hreached hpremises hmeeting with rfl | hmem
  · -- the first goal is met when nothing has been visited
    simp only [Walk.fate, List.not_mem_nil, if_false] at hagain
    split_ifs at hagain
  · exact hmem

end Graph

/-- A refusal for another reason than the levels is one of the search itself. -/
lemma Graph.search_of_refused {graph : Graph} {limit : Int} {levels : ℕ} {goal : Fact} {reason : Refusal}
    (h : (graph.answer limit levels goal).1 = .refused reason) (hlevels : reason ≠ .outOfLevels) :
    (graph.search limit levels 0 [] goal {}).1 = some (.refused reason) ∧
      (graph.answer limit levels goal).2 = (graph.search limit levels 0 [] goal {}).2.effort := by
  unfold answer at h ⊢
  rcases hsearch : graph.search limit levels 0 [] goal {} with ⟨_ | verdict, walk⟩
  all_goals rw [hsearch] at h
  · exact absurd (Verdict.refused.inj h).symm hlevels
  · exact ⟨congrArg some h, rfl⟩

@[simp] lemma Knowledge.code_graph (knowledge : Knowledge) (encoder : Encoder) :
    (knowledge.graph encoder).code = encoder.code := rfl

/-- Two known facts are given the same number if they have it in the table. -/
lemma Encoder.Sound.exists_encodes_iff {encoder : Encoder} (h : encoder.Sound) {first second : Fact}
    (hfirst : encoder.Knows first.concepts) (hsecond : encoder.Knows second.concepts) :
    (∃ n, encoder.Encodes first n ∧ encoder.Encodes second n) ↔ encoder.code first = encoder.code second := by
  constructor
  · rintro ⟨n, hn, hn'⟩
    rw [← h.eq_code hfirst hn, ← h.eq_code hsecond hn']
  · intro heq
    have hencodes := h.encodes_code hsecond
    rw [← heq] at hencodes
    exact ⟨encoder.code first, h.encodes_code hfirst, hencodes⟩

/-- Some goal with the number of the given one was met again. -/
def Encoder.MetAgain (encoder : Encoder) (meetings : List Meeting) (goal : Fact) : Prop :=
  ∃ meeting ∈ meetings, meeting.fate = .again ∧
    ∃ n, encoder.Encodes meeting.goal n ∧ encoder.Encodes goal n

namespace Store

variable {store : Store} {limit : Int} {levels : ℕ} {goal : Fact} {after : Encoder}

/-- The numbers on the graph are those that the encoder gives. -/
lemma Sound.metAgain_iff (h : store.Sound) (hcomplete : goal.IsComplete)
    (hsame : (store.encoder.ready goal).Same after) :
    after.MetAgain (store.meetings limit levels goal) goal ↔
      ∃ meeting ∈ store.meetings limit levels goal, meeting.fate = .again ∧
        (store.encoder.ready goal).code meeting.goal = (store.encoder.ready goal).code goal := by
  refine exists_congr fun meeting => and_congr_right fun hmeeting => and_congr_right fun _ => ?_
  have hmet := (h.knows_meetings hcomplete hmeeting).grows hsame.grows
  rw [hsame.sound.exists_encodes_iff hmet (h.asked hcomplete hsame).2, Encoder.code_congr hsame]

/-- **The reasons**, by the goals that the search has decided and the numbers that the encoder gives. -/
lemma Sound.refused_cases (h : store.Sound) (hcomplete : goal.IsComplete)
    (hsame : (store.encoder.ready goal).Same after) {reason : Refusal}
    (hno : ((store.knowledge.graph (store.encoder.ready goal)).search limit levels 0 [] goal {}).1 =
      some (.refused reason)) :
    (reason = .tooDeep ↔ CutOff (store.meetings limit levels goal)) ∧
    (¬ CutOff (store.meetings limit levels goal) →
      (reason = .circular ↔ after.MetAgain (store.meetings limit levels goal) goal) ∧
      (reason = .underivable ↔ ¬ after.MetAgain (store.meetings limit levels goal) goal)) := by
  have hcases := Graph.refused_cases hno
  rw [Knowledge.code_graph] at hcases
  rw [h.metAgain_iff hcomplete hsame]
  exact hcases

/-- **Circles are real**: steps lead from the question to a goal with the same concepts. -/
lemma Sound.exists_transGen (h : store.Sound) (hcomplete : goal.IsComplete)
    (hsame : (store.encoder.ready goal).Same after)
    (hagain : after.MetAgain (store.meetings limit levels goal) goal) :
    ∃ target, Relation.TransGen (store.knowledge.Leads after) goal target ∧ target.Permutes goal := by
  obtain ⟨hasked, hknows⟩ := h.asked hcomplete hsame
  obtain ⟨meeting, hmeeting, hfate, hnumber⟩ := hagain
  rw [meetings, ← Knowledge.graph_congr hsame] at hmeeting
  obtain ⟨hmet, hpath⟩ := Graph.transGen_of_met_again (hasked.fits.isClosed hasked.encoder) hknows
    (fun other hother way hway premise hpremise =>
      (Knowledge.leads_iff hasked.encoder hother).mpr ⟨way, hway, hpremise⟩) hmeeting hfate
  refine ⟨meeting.goal, hpath, ?_⟩
  rwa [hasked.encoder.exists_encodes_iff hmet hknows, hasked.encoder.code_eq_iff hmet hknows] at hnumber

end Store

/-- **Explanations of refusals are exact.**  Over a store in any state, let an engine with a numeric depth limit
answer a complete question with no, for another reason than that the levels are used up.  Its account has been
increased by the goals that the search has decided.  The explanation speaks of the depth exactly if one of them was
cut off; otherwise it speaks of a circle exactly if a goal with the number of the question was met again; otherwise
it says that nothing was found.  And it speaks of a circle only if one or more steps lead from the question to a goal
with the same concepts, in whatever order. -/
theorem explanation_of_refusal {store : Store} (hstore : store.IsReachable) {engine : Engine} {limit : Number}
    (hlimit : engine.depthLimit.number? = some limit) {goal : Fact} (hcomplete : goal.IsComplete)
    {after : Encoder} (hafter : after = (engine.deduce store.encoder store.knowledge goal).2.2)
    {reason : Refusal} (hno : (engine.deduce store.encoder store.knowledge goal).1 = .ok (.refused reason))
    (hlevels : reason ≠ .outOfLevels) :
    let levels := engine.machine.levels
    let meetings := store.meetings (Engine.deepestWithin levels limit) levels goal
    let explanation := (Verdict.refused reason).explanation goal
    (engine.deduce store.encoder store.knowledge goal).2.1.statistics.effort =
      engine.statistics.effort.merge (account meetings) ∧
    (explanation = s!"Maximum reasoning depth exceeded: {goal.text}" ↔ CutOff meetings) ∧
    (¬ CutOff meetings →
      (explanation = s!"Circular reasoning detected: {goal.text}" ↔ after.MetAgain meetings goal) ∧
      (explanation = s!"Could not deduce: {goal.text}" ↔ ¬ after.MetAgain meetings goal)) ∧
    (explanation = s!"Circular reasoning detected: {goal.text}" →
      ∃ target, Relation.TransGen (store.knowledge.Leads after) goal target ∧ target.Permutes goal) := by
  intro levels meetings explanation
  have h := hstore.sound
  obtain ⟨later, hsame, hdeduce⟩ := h.fits.deduce h.encoder hcomplete (Engine.depthBound_eq_ok hlimit)
  rw [hdeduce] at hafter hno ⊢
  subst hafter
  obtain ⟨hsearch, heffort⟩ := Graph.search_of_refused (Except.ok.inj hno) hlevels
  rw [store.effort_search] at heffort
  obtain ⟨hdeep, hother⟩ := h.refused_cases hcomplete hsame hsearch
  obtain ⟨htooDeep, hcircular, hunderivable⟩ := @Verdict.explanation_iff goal reason hlevels
  refine ⟨?_, htooDeep.trans hdeep, fun hnone => ?_, fun hexplained => ?_⟩
  · rw [Engine.after, Statistics.record, heffort]
  · obtain ⟨hcircle, hnothing⟩ := hother hnone
    exact ⟨hcircular.trans hcircle, hunderivable.trans hnothing⟩
  · obtain rfl := hcircular.mp hexplained
    have hnone : ¬ CutOff meetings := fun hcut => absurd (hdeep.mpr hcut) (by decide)
    exact h.exists_transGen hcomplete hsame ((hother hnone).1.mp rfl)

/-- The reason that an answer gives, if it is no. -/
def Verdict.reason? : Verdict → Option Refusal
  | .proved _ => none
  | .refused reason => some reason

/-- A store with an implication from a fact to itself, which is read back with its predicate in front. -/
def selfStore : Store := (Store.fresh 0 []).performAll
  [.call (.primeOf "r"), .addRule (.rule (.standard ⟨"a", "r", "b"⟩ [] ⟨"a", "r", "b"⟩))]

theorem circle_through_reading :
    (selfStore.meetings 400 Machine.usual.levels ⟨"a", "r", "b"⟩).map
      (fun meeting => (meeting.goal, meeting.fate)) =
      [(⟨"a", "r", "b"⟩, .opened), (⟨"r", "a", "b"⟩, .opened), (⟨"r", "a", "b"⟩, .again)] ∧
    ∃ verdict after, after = (({ machine := .usual } : Engine).deduce selfStore.encoder selfStore.knowledge
        ⟨"a", "r", "b"⟩).2.2 ∧
      (({ machine := .usual } : Engine).deduce selfStore.encoder selfStore.knowledge
        ⟨"a", "r", "b"⟩).1 = .ok verdict ∧
      verdict.explanation ⟨"a", "r", "b"⟩ = "Circular reasoning detected: a r b" ∧
      after.MetAgain (selfStore.meetings 400 Machine.usual.levels ⟨"a", "r", "b"⟩) ⟨"a", "r", "b"⟩ ∧
      ∃ target, Relation.TransGen (selfStore.knowledge.Leads after) ⟨"a", "r", "b"⟩ target ∧
        target.Permutes ⟨"a", "r", "b"⟩ := by
  obtain ⟨hmeetings, hnone, hreason⟩ :
      (selfStore.meetings 400 Machine.usual.levels ⟨"a", "r", "b"⟩).map
        (fun meeting => (meeting.goal, meeting.fate)) =
          [(⟨"a", "r", "b"⟩, .opened), (⟨"r", "a", "b"⟩, .opened), (⟨"r", "a", "b"⟩, .again)] ∧
      ¬ CutOff (selfStore.meetings 400 Machine.usual.levels ⟨"a", "r", "b"⟩) ∧
      (({ machine := .usual } : Engine).deduce selfStore.encoder selfStore.knowledge
        ⟨"a", "r", "b"⟩).1.toOption.map Verdict.reason? = some (some .circular) := by
    decide +kernel
  obtain ⟨verdict, hverdict, hrefused⟩ := exists_ok_of_toOption hreason
  obtain rfl : verdict = .refused .circular := by
    cases verdict with
    | proved derivation => simp [Verdict.reason?] at hrefused
    | refused reason => simpa [Verdict.reason?] using hrefused
  have hstore : selfStore.IsReachable := ⟨0, [], _, rfl⟩
  have hlimit : ({ machine := .usual } : Engine).depthLimit.number? = some (.whole 400) := rfl
  obtain ⟨-, -, hcircle, hpath⟩ := explanation_of_refusal hstore hlimit
    (Fact.isComplete_iff.mpr (by decide +kernel)) rfl hverdict (by decide)
  exact ⟨hmeetings, _, _, rfl, hverdict, rfl, (hcircle hnone).1.mp rfl, hpath rfl⟩

end PrimeReasoner
