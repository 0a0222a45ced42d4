import NovaCommerce.Knowledge.Chunks
import NovaCommerce.Lib.Ranking
import NovaCommerce.Lib.Refusals

/-!
# Evaluating a retrieval

`runEvaluation` searches for every sample of a request and averages four scores. Each of its statements may read another database.

* `RunEvaluationRequest` : a request with samples, each with labels (`validateEvaluation`);
* `scoreSample` : the scores of one sample (`scoreSample_ok`);
* `Tally` : what the sums of some samples keep;
* `runEvaluation_bounded` : the averages; `discounts_log` : the discount that the code uses.
-/

namespace NovaCommerce.Console

open Ranking

/-! ## Requests -/

/-- A query, and the chunks that answer it. -/
structure EvaluationSample where
  text : String
  relevantChunkIds : Finset Int
  labelled : relevantChunkIds.Nonempty

structure RunEvaluationRequest where
  knowledgeBaseId : Nat
  datasetName : String
  topK : Nat
  samples : List EvaluationSample
  positive : 0 < topK
  sampled : samples ≠ []

def evaluationSample? (sample : String × List Int) : Option EvaluationSample :=
  let labels := sample.2.toFinset
  if h : (1 ≤ sample.1.length ∧ sample.1.length ≤ 2000) ∧ labels.Nonempty ∧ labels.card ≤ 100 then
    some ⟨sample.1, labels, h.2.1⟩
  else none

/-- Validate an evaluation body. -/
def validateEvaluation (knowledgeBaseId : Int) (datasetName : String) (topK : Int) (samples : List (String × List Int)) :
    Except AppError RunEvaluationRequest :=
  let invalid : AppError := { kind := .validation, message := "request validation failed" }
  let parsed := samples.filterMap evaluationSample?
  if knowledgeBaseId ≤ 0 ∨ datasetName.length = 0 ∨ 200 < datasetName.length then .error invalid
  else if 500 < samples.length ∨ parsed.length ≠ samples.length ∨ 20 < topK then .error invalid
  else if h : 0 < topK.toNat ∧ parsed ≠ [] then .ok ⟨knowledgeBaseId.toNat, datasetName, topK.toNat, parsed, h.1, h.2⟩
  else .error invalid

/-! ## Scores -/

variable {ν : Type} [Field ν] [LinearOrder ν] (discount : Nat → ν)

/-- `a / b`. -/
def divide (a b : ν) : Except AppError ν :=
  if b = 0 then .error { kind := .zeroDivision, message := "float division by zero" } else .ok (a / b)

structure Scores (ν : Type) where
  recallAtK : ν
  precisionAtK : ν
  mrr : ν
  ndcg : ν

/-- A sample with what was retrieved for it. -/
structure EvaluatedSample where
  text : String
  relevantChunkIds : List Int
  retrievedChunkIds : List Nat

def EvaluatedSample.relevant (s : EvaluatedSample) (id : Nat) : Bool := decide ((id : Int) ∈ s.relevantChunkIds)

def evaluatedSample (sample : EvaluationSample) (retrieved : List Nat) : EvaluatedSample where
  text := sample.text
  relevantChunkIds := sample.relevantChunkIds.sort (· ≤ ·)
  retrievedChunkIds := retrieved

/-- `1 / ranks[0] if ranks else 0`. -/
def reciprocalRank : List Nat → Except AppError ν
  | [] => .ok 0
  | rank :: _ => divide 1 rank

/-- The scores of one sample. -/
def scoreSample (topK : Nat) (s : EvaluatedSample) : Except AppError (Scores ν) := do
  let ranks := ranksFrom s.relevant 1 s.retrievedChunkIds
  let found ← divide (ranks.length : ν) s.relevantChunkIds.length
  let precision ← divide (ranks.length : ν) topK
  let mrr ← reciprocalRank ranks
  let ndcg ← divide (gain discount ranks) (ideal discount 1 (min topK s.relevantChunkIds.length))
  return ⟨found, precision, mrr, ndcg⟩

def Scores.zero : Scores ν := ⟨0, 0, 0, 0⟩

def Scores.add (a b : Scores ν) : Scores ν :=
  ⟨a.recallAtK + b.recallAtK, a.precisionAtK + b.precisionAtK, a.mrr + b.mrr, a.ndcg + b.ndcg⟩

/-- Every score over the number of samples. -/
def Scores.average (a : Scores ν) (n : Nat) : Except AppError (Scores ν) := do
  let found ← divide a.recallAtK n
  let precision ← divide a.precisionAtK n
  let mrr ← divide a.mrr n
  let ndcg ← divide a.ndcg n
  return ⟨found, precision, mrr, ndcg⟩

/-! ## The run -/

/-- `ready_chunk_ids`. -/
def Tables.readyChunkIds (t : Tables) (baseId merchantId : Nat) : List Nat :=
  (t.chunks.select fun c => (t.documents.get? c.documentId).any fun d =>
    decide (d.knowledgeBaseId = baseId ∧ d.merchantId = merchantId ∧ d.status = .ready)).map Prod.fst

structure KnowledgeEvaluation (ν : Type) where
  knowledgeBaseId : Nat
  datasetName : String
  sampleCount : Nat
  metrics : Scores ν
  topK : Nat
  samples : List EvaluatedSample

/-- One sample more: its labels are checked, its query is searched, its scores are added. -/
def evaluateSample (reads : Nat → Tables) (merchantId : Nat) (ready : List Nat) (request : RunEvaluationRequest)
    (done : Scores ν × List EvaluatedSample) (e : EvaluationSample × Nat) : Except AppError (Scores ν × List EvaluatedSample) := do
  Raise.raiseIf (∃ id ∈ e.1.relevantChunkIds, id ∉ ready.map Int.ofNat)
    { kind := .validation, message := "evaluation labels must refer to ready chunks in this knowledge base" }
  let hits := (reads e.2).searchChunks request.knowledgeBaseId merchantId e.1.text request.topK
  let s := evaluatedSample e.1 (hits.map Prod.fst)
  let scores ← scoreSample discount request.topK s
  return (done.1.add scores, done.2 ++ [s])

/-- `run_evaluation`: the row that is stored. Statement `i` reads `reads i`: the base, the ready chunks, and a search for each
sample. -/
def runEvaluation (reads : Nat → Tables) (principal : Identity.Principal) (request : RunEvaluationRequest) :
    Except AppError (KnowledgeEvaluation ν) := do
  let merchantId ← knowledgeMerchant principal "knowledge:write"
  principal.requirePermission "knowledge:read"
  let _ ← Raise.orRaise ((reads 0).baseOf request.knowledgeBaseId merchantId)
    { kind := .knowledgeBaseNotFound, message := "knowledge base not found" }
  let ready := (reads 1).readyChunkIds request.knowledgeBaseId merchantId
  let done ← Raise.foldSteps (evaluateSample discount reads merchantId ready request) (request.samples.zipIdx 2) (Scores.zero, [])
  let metrics ← done.1.average request.samples.length
  return {
    knowledgeBaseId := request.knowledgeBaseId
    datasetName := request.datasetName
    sampleCount := done.2.length
    metrics := metrics
    topK := request.topK
    samples := done.2 }

/-! ## One sample -/

/-- The first `topK` results, or as many as there are relevant chunks, are all relevant. -/
def EvaluatedSample.Leads (topK : Nat) (s : EvaluatedSample) : Prop :=
  LeadsWith s.relevant (min topK s.relevantChunkIds.length) s.retrievedChunkIds

/-- Labels, and at most `topK` results, none of them twice. -/
structure EvaluatedSample.Searched (topK : Nat) (s : EvaluatedSample) : Prop where
  labelled : 0 < s.relevantChunkIds.length
  limited : s.retrievedChunkIds.length ≤ topK
  distinct : s.retrievedChunkIds.Nodup

/-- Chunk ids are keys. -/
theorem nodup_searchChunks (t : Tables) (baseId merchantId : Nat) (text : String) (limit : Nat) :
    ((t.searchChunks baseId merchantId text limit).map Prod.fst).Nodup := by
  unfold Tables.searchChunks
  have hkeys : ((byId t.chunks.entries).map Prod.fst).Nodup :=
    ((List.perm_insertionSort _ t.chunks.entries).map Prod.fst).nodup_iff.mpr t.chunks.nodup
  have hsub : ∀ {xs : List (Nat × KnowledgeChunk)} {g : Nat × KnowledgeChunk → Option (Nat × KnowledgeChunk × Nat × KnowledgeDocument)},
      (∀ c hit, g c = some hit → hit.1 = c.1) → ((xs.filterMap g).map Prod.fst).Sublist (xs.map Prod.fst) := by
    intro xs g hg
    induction xs with
    | nil => exact List.Sublist.refl _
    | cons c xs ih =>
      cases hc : g c with
      | none =>
        rw [List.filterMap_cons_none hc, List.map_cons]
        exact ih.cons _
      | some hit =>
        rw [List.filterMap_cons_some hc, List.map_cons, List.map_cons, hg c hit hc]
        exact ih.cons_cons _
  rw [List.map_take]
  refine List.Sublist.nodup (List.take_sublist _ _) (List.Sublist.nodup (hsub fun c hit h => ?_) hkeys)
  obtain ⟨d, -, rfl⟩ := Option.map_eq_some_iff.mp h
  rfl

theorem searched_evaluatedSample (t : Tables) (baseId merchantId topK : Nat) (sample : EvaluationSample) :
    (evaluatedSample sample ((t.searchChunks baseId merchantId sample.text topK).map Prod.fst)).Searched topK where
  labelled := by
    show 0 < (sample.relevantChunkIds.sort (· ≤ ·)).length
    rw [Finset.length_sort]
    exact Finset.card_pos.mpr sample.labelled
  limited := by
    show ((t.searchChunks baseId merchantId sample.text topK).map Prod.fst).length ≤ topK
    rw [List.length_map]
    exact List.length_take_le _ _
  distinct := nodup_searchChunks t baseId merchantId sample.text topK

/-- As many hits as results, and as labels, at most. -/
theorem EvaluatedSample.Searched.hits_le {topK : Nat} {s : EvaluatedSample} (h : s.Searched topK) :
    (s.retrievedChunkIds.filter s.relevant).length ≤ topK ∧
      (s.retrievedChunkIds.filter s.relevant).length ≤ s.relevantChunkIds.length := by
  constructor
  · exact (List.length_filter_le _ _).trans h.limited
  · have hnodup : ((s.retrievedChunkIds.filter s.relevant).map Int.ofNat).Nodup :=
      (h.distinct.filter _).map fun _ _ => Int.ofNat.inj
    have hsub : (s.retrievedChunkIds.filter s.relevant).map Int.ofNat ⊆ s.relevantChunkIds := by
      intro id hid
      obtain ⟨n, hn, rfl⟩ := List.mem_map.mp hid
      exact of_decide_eq_true (List.mem_filter.mp hn).2
    have hle := (List.subperm_of_subset hnodup hsub).length_le
    rwa [List.length_map] at hle

theorem divide_of_ne {a b : ν} (h : b ≠ 0) : divide a b = .ok (a / b) := if_neg h

/-- Scores between zero and `n`. -/
structure Scores.Within (a : Scores ν) (n : Nat) : Prop where
  recallAtK : 0 ≤ a.recallAtK ∧ a.recallAtK ≤ n
  precisionAtK : 0 ≤ a.precisionAtK ∧ a.precisionAtK ≤ n
  mrr : 0 ≤ a.mrr ∧ a.mrr ≤ n
  ndcg : 0 ≤ a.ndcg ∧ a.ndcg ≤ n

section bounds

variable [IsStrictOrderedRing ν] {discount}

omit discount in
theorem reciprocalRank_ok {ranks : List Nat} (h : ∀ rank ∈ ranks, 1 ≤ rank) :
    ∃ mrr : ν, reciprocalRank ranks = .ok mrr ∧ 0 ≤ mrr ∧ mrr ≤ 1 := by
  cases ranks with
  | nil => exact ⟨0, rfl, le_refl 0, zero_le_one⟩
  | cons rank ranks =>
    have hrank : (1 : ν) ≤ rank := Nat.one_le_cast.mpr (h rank List.mem_cons_self)
    have hpos : (0 : ν) < rank := zero_lt_one.trans_le hrank
    exact ⟨1 / rank, divide_of_ne hpos.ne', div_nonneg zero_le_one hpos.le, (div_le_one hpos).mpr hrank⟩

/-- A sample is scored, between zero and one, and its gain is ideal when it leads with relevant results. -/
theorem scoreSample_ok (hd : Discounts discount) {topK : Nat} (hk : 0 < topK) {s : EvaluatedSample} (h : s.Searched topK) :
    ∃ scores, scoreSample discount topK s = .ok scores ∧ scores.Within 1 ∧ (scores.ndcg = 1 ↔ s.Leads topK) := by
  obtain ⟨htop, hlabels⟩ := h.hits_le
  rw [← length_ranksFrom s.relevant 1] at htop hlabels
  have hmin : (s.retrievedChunkIds.filter s.relevant).length ≤ min topK s.relevantChunkIds.length :=
    le_min h.hits_le.1 h.hits_le.2
  have hideal : 0 < ideal discount 1 (min topK s.relevantChunkIds.length) := ideal_pos hd (le_refl 1) (lt_min hk h.labelled)
  have hranks : ∀ rank ∈ ranksFrom s.relevant 1 s.retrievedChunkIds, 1 ≤ rank := fun _ => le_of_mem_ranksFrom
  have hfirst : ∃ mrr : ν, reciprocalRank (ranksFrom s.relevant 1 s.retrievedChunkIds) = .ok mrr ∧ 0 ≤ mrr ∧ mrr ≤ 1 :=
    reciprocalRank_ok hranks
  obtain ⟨mrr, hmrr, hmrr0, hmrr1⟩ := hfirst
  have htopK : (0 : ν) < topK := Nat.cast_pos.mpr hk
  have hcount : (0 : ν) < s.relevantChunkIds.length := Nat.cast_pos.mpr h.labelled
  let ranks := ranksFrom s.relevant 1 s.retrievedChunkIds
  let best : ν := ideal discount 1 (min topK s.relevantChunkIds.length)
  have hscore : scoreSample discount topK s = .ok
      ⟨(ranks.length : ν) / s.relevantChunkIds.length, (ranks.length : ν) / topK, mrr, gain discount ranks / best⟩ := by
    unfold scoreSample
    dsimp only
    rw [divide_of_ne hcount.ne', divide_of_ne htopK.ne', hmrr, divide_of_ne hideal.ne']
    rfl
  refine ⟨_, hscore, ⟨?_, ?_, ?_, ?_⟩, ?_⟩
  · rw [Nat.cast_one]
    exact mean_mem h.labelled (Nat.cast_nonneg _) (Nat.cast_le.mpr hlabels)
  · rw [Nat.cast_one]
    exact mean_mem hk (Nat.cast_nonneg _) (Nat.cast_le.mpr htop)
  · rw [Nat.cast_one]
    exact ⟨hmrr0, hmrr1⟩
  · rw [Nat.cast_one]
    exact ⟨div_nonneg (gain_nonneg hd hranks) hideal.le, (div_le_one hideal).mpr (gain_ranksFrom_le hd (le_refl 1) hmin)⟩
  · rw [div_eq_one_iff_eq hideal.ne']
    exact gain_eq_ideal_iff hd (le_refl 1) hmin

/-! ## The sums -/

/-- The sums of some samples. -/
structure Tally (topK : Nat) (done : Scores ν × List EvaluatedSample) : Prop where
  within : done.1.Within done.2.length
  full : done.1.ndcg = (done.2.length : ν) ↔ ∀ s ∈ done.2, s.Leads topK

theorem tally_zero (topK : Nat) : Tally topK ((Scores.zero : Scores ν), []) where
  within := by
    have hzero : (0 : ν) ≤ 0 ∧ (0 : ν) ≤ (([] : List EvaluatedSample).length : Nat) := ⟨le_refl 0, Nat.cast_nonneg _⟩
    exact ⟨hzero, hzero, hzero, hzero⟩
  full := by
    refine iff_of_true ?_ fun s hs => absurd hs List.not_mem_nil
    show (0 : ν) = ((0 : Nat) : ν)
    rw [Nat.cast_zero]

/-- One sample more. -/
theorem Tally.add {topK : Nat} {done : Scores ν × List EvaluatedSample} (h : Tally topK done) {scores : Scores ν} {s : EvaluatedSample}
    (hwithin : scores.Within 1) (hfull : scores.ndcg = 1 ↔ s.Leads topK) : Tally topK (done.1.add scores, done.2 ++ [s]) := by
  have hlength : (done.2 ++ [s]).length = done.2.length + 1 := by rw [List.length_append, List.length_singleton]
  have hsum : ∀ {a b : ν}, 0 ≤ a ∧ a ≤ (done.2.length : ν) → 0 ≤ b ∧ b ≤ ((1 : Nat) : ν) →
      0 ≤ a + b ∧ a + b ≤ ((done.2 ++ [s]).length : ν) := by
    intro a b ha hb
    rw [hlength, Nat.cast_add]
    exact ⟨add_nonneg ha.1 hb.1, add_le_add ha.2 hb.2⟩
  constructor
  · exact {
      recallAtK := hsum h.within.recallAtK hwithin.recallAtK
      precisionAtK := hsum h.within.precisionAtK hwithin.precisionAtK
      mrr := hsum h.within.mrr hwithin.mrr
      ndcg := hsum h.within.ndcg hwithin.ndcg }
  · have hone : scores.ndcg ≤ 1 := by
      have hle := hwithin.ndcg.2
      rwa [Nat.cast_one] at hle
    show done.1.ndcg + scores.ndcg = ((done.2 ++ [s]).length : ν) ↔ ∀ s' ∈ done.2 ++ [s], s'.Leads topK
    rw [hlength, add_eq_succ_iff h.within.ndcg.2 hone, h.full, hfull, List.forall_mem_append, List.forall_mem_singleton]

theorem evaluateSample_tally (hd : Discounts discount) {reads : Nat → Tables} {merchantId : Nat} {ready : List Nat}
    {request : RunEvaluationRequest} {done done' : Scores ν × List EvaluatedSample} {e : EvaluationSample × Nat}
    (hdone : Tally request.topK done) (h : evaluateSample discount reads merchantId ready request done e = .ok done') :
    Tally request.topK done' := by
  unfold evaluateSample at h
  obtain ⟨_, -, h⟩ := Raise.bind_eq_ok.mp h
  obtain ⟨scores, hscores, h⟩ := Raise.bind_eq_ok.mp h
  cases h
  obtain ⟨scores', hscores', hwithin, hfull⟩ := scoreSample_ok hd request.positive
    (searched_evaluatedSample (reads e.2) request.knowledgeBaseId merchantId request.topK e.1)
  rw [hscores] at hscores'
  cases hscores'
  exact hdone.add hwithin hfull

end bounds

/-! ## The whole run -/

/-- What is known of a sample before it is searched. -/
def EvaluationSample.labels (s : EvaluationSample) : String × List Int := (s.text, s.relevantChunkIds.sort (· ≤ ·))

def EvaluatedSample.labels (s : EvaluatedSample) : String × List Int := (s.text, s.relevantChunkIds)

/-- Every sample is evaluated, in its place. -/
theorem evaluateSamples_labels {reads : Nat → Tables} {merchantId : Nat} {ready : List Nat} {request : RunEvaluationRequest} :
    ∀ {samples : List (EvaluationSample × Nat)} {done done' : Scores ν × List EvaluatedSample},
      Raise.foldSteps (evaluateSample discount reads merchantId ready request) samples done = .ok done' →
      done'.2.map EvaluatedSample.labels = done.2.map EvaluatedSample.labels ++ samples.map fun e => e.1.labels := by
  intro samples
  induction samples with
  | nil =>
    intro done done' h
    cases h
    rw [List.map_nil, List.append_nil]
  | cons e samples ih =>
    intro done done' h
    obtain ⟨next, hnext, h⟩ := Raise.bind_eq_ok.mp h
    unfold evaluateSample at hnext
    obtain ⟨_, -, hnext⟩ := Raise.bind_eq_ok.mp hnext
    obtain ⟨scores, -, hnext⟩ := Raise.bind_eq_ok.mp hnext
    cases hnext
    rw [ih h, List.map_append, List.map_cons, List.map_nil, List.append_assoc, List.map_cons]
    rfl

section bounds

variable [IsStrictOrderedRing ν] {discount}

/-- Nothing is divided by zero. -/
theorem only_evaluateSample (hd : Discounts discount) (reads : Nat → Tables) (merchantId : Nat) (ready : List Nat)
    (request : RunEvaluationRequest) (done : Scores ν × List EvaluatedSample) (e : EvaluationSample × Nat) :
    Raise.Only (fun x => x.kind ≠ .zeroDivision) (evaluateSample discount reads merchantId ready request done e) := by
  unfold evaluateSample
  refine (Raise.only_raiseIf _ (by decide)).bind fun _ _ => ?_
  obtain ⟨scores, hscores, -⟩ := scoreSample_ok hd request.positive
    (searched_evaluatedSample (reads e.2) request.knowledgeBaseId merchantId request.topK e.1)
  exact (Raise.only_of_ok hscores).bind fun _ _ => Raise.only_pure _

omit [IsStrictOrderedRing ν] in
theorem average_ok {n : Nat} (hn : (n : ν) ≠ 0) (a : Scores ν) :
    a.average n = .ok ⟨a.recallAtK / n, a.precisionAtK / n, a.mrr / n, a.ndcg / n⟩ := by
  unfold Scores.average
  rw [divide_of_ne hn, divide_of_ne hn, divide_of_ne hn, divide_of_ne hn]
  rfl

theorem only_knowledgeMerchant (principal : Identity.Principal) (permission : String) :
    Raise.Only (fun x => x.kind ≠ .zeroDivision) (knowledgeMerchant principal permission) := by
  unfold knowledgeMerchant
  refine Raise.Only.bind (Raise.only_raiseIf _ (by intro h; cases h)) fun _ _ => ?_
  cases principal.merchantId with
  | none => exact Raise.only_error (by decide)
  | some m => exact (Raise.only_raiseIf _ (by decide)).bind fun _ _ => Raise.only_pure m

/-- A run never divides by zero. Its averages lie between zero and one, and the gain is one exactly when every sample leads with
as many relevant results as the ideal ranking has. -/
theorem runEvaluation_bounded (discount : Nat → ν) (hd : Discounts discount) (reads : Nat → Tables) (principal : Identity.Principal)
    (request : RunEvaluationRequest) :
    (∀ x, runEvaluation discount reads principal request = .error x → x.kind ≠ .zeroDivision) ∧
      ∀ row, runEvaluation discount reads principal request = .ok row →
        row.samples.map EvaluatedSample.labels = request.samples.map EvaluationSample.labels ∧
        row.metrics.Within 1 ∧ (row.metrics.ndcg = 1 ↔ ∀ s ∈ row.samples, s.Leads request.topK) := by
  have hlength : 0 < request.samples.length := List.length_pos_of_ne_nil request.sampled
  have hcount : ((request.samples.length : Nat) : ν) ≠ 0 := Nat.cast_ne_zero.mpr hlength.ne'
  constructor
  · refine (only_knowledgeMerchant principal _).bind fun merchantId _ => ?_
    refine Raise.Only.bind (Raise.only_raiseIf _ (by intro h; cases h)) fun _ _ => ?_
    refine (Raise.only_orRaise _ (by decide)).bind fun _ _ => ?_
    refine (Raise.Only.foldSteps (only_evaluateSample hd reads merchantId _ request) _ _).bind fun done _ => ?_
    exact (Raise.only_of_ok (average_ok hcount done.1)).bind fun _ _ => Raise.only_pure _
  · intro row h
    unfold runEvaluation at h
    obtain ⟨merchantId, -, h⟩ := Raise.bind_eq_ok.mp h
    obtain ⟨_, -, h⟩ := Raise.bind_eq_ok.mp h
    obtain ⟨_, -, h⟩ := Raise.bind_eq_ok.mp h
    obtain ⟨done, hdone, h⟩ := Raise.bind_eq_ok.mp h
    obtain ⟨metrics, hmetrics, h⟩ := Raise.bind_eq_ok.mp h
    rw [average_ok hcount] at hmetrics
    cases hmetrics
    cases h
    have hlabels := evaluateSamples_labels discount hdone
    have htally : Tally request.topK done :=
      Raise.foldSteps_inv (fun _ _ _ _ hs hstep => evaluateSample_tally hd hs hstep) (tally_zero request.topK) hdone
    have hzip : (request.samples.zipIdx 2).map (fun e => e.1.labels) = request.samples.map EvaluationSample.labels := by
      calc (request.samples.zipIdx 2).map (fun e => e.1.labels)
          = ((request.samples.zipIdx 2).map Prod.fst).map EvaluationSample.labels := by
            rw [List.map_map]
            rfl
        _ = request.samples.map EvaluationSample.labels := by rw [List.zipIdx_map_fst]
    rw [List.map_nil, List.nil_append, hzip] at hlabels
    have hsame : done.2.length = request.samples.length := by
      have hlen := congrArg List.length hlabels
      rwa [List.length_map, List.length_map] at hlen
    have hwithin := htally.within
    rw [hsame] at hwithin
    have hmean : ∀ {a : ν}, 0 ≤ a ∧ a ≤ (request.samples.length : ν) →
        0 ≤ a / request.samples.length ∧ a / request.samples.length ≤ ((1 : Nat) : ν) := by
      intro a ha
      rw [Nat.cast_one]
      exact mean_mem hlength ha.1 ha.2
    refine ⟨hlabels, ⟨hmean hwithin.recallAtK, hmean hwithin.precisionAtK, hmean hwithin.mrr, hmean hwithin.ndcg⟩, ?_⟩
    show done.1.ndcg / request.samples.length = 1 ↔ ∀ s ∈ done.2, s.Leads request.topK
    rw [mean_eq_one_iff hlength, ← hsame]
    exact htally.full

end bounds

/-! ## The logarithmic discount -/

/-- `1 / log2(rank + 1)`. -/
theorem discounts_log : Discounts fun rank : Nat => 1 / Real.logb 2 (rank + 1) where
  positive rank hrank := by
    have hone : (1 : ℝ) < rank + 1 := lt_add_of_pos_left 1 (Nat.cast_pos.mpr hrank)
    exact one_div_pos.mpr (Real.logb_pos one_lt_two hone)
  falls rank rank' hrank hlt := by
    have hone : (1 : ℝ) < rank + 1 := lt_add_of_pos_left 1 (Nat.cast_pos.mpr hrank)
    have hless : (rank : ℝ) + 1 < rank' + 1 := add_lt_add_of_lt_of_le (Nat.cast_lt.mpr hlt) (le_refl 1)
    apply one_div_lt_one_div_of_lt (Real.logb_pos one_lt_two hone)
    exact Real.logb_lt_logb one_lt_two (zero_lt_one.trans hone) hless

/-- A base with one document of one chunk. -/
def sampleLibrary : Tables where
  knowledgeBases := Dict.ofList [(1, { merchantId := 31, name := "returns" })]
  documents := Dict.ofList [(2, { merchantId := 31, knowledgeBaseId := 1, fileName := "cups.md", status := .ready })]
  chunks := Dict.ofList [(3, { documentId := 2, text := "cups can be returned" })]
  next := 4

def librarian : Identity.Principal where
  userId := 7
  userType := .staff
  merchantId := some 31
  roles := []
  permissions := ["knowledge:read", "knowledge:write"]
  dataScope := .merchant
  sessionId := "s7"
  isStaff := true

def sampleEvaluation : RunEvaluationRequest where
  knowledgeBaseId := 1
  datasetName := "returns"
  topK := 5
  samples := [⟨"returned", {3}, Finset.singleton_nonempty 3⟩]
  positive := by decide
  sampled := List.cons_ne_nil _ _

theorem runEvaluation_bounded_cups :
    (∀ x, runEvaluation (fun rank : Nat => 1 / Real.logb 2 (rank + 1)) (fun _ => sampleLibrary) librarian sampleEvaluation = .error x →
        x.kind ≠ .zeroDivision) ∧
      ∀ row, runEvaluation (fun rank : Nat => 1 / Real.logb 2 (rank + 1)) (fun _ => sampleLibrary) librarian sampleEvaluation = .ok row →
        row.samples.map EvaluatedSample.labels = sampleEvaluation.samples.map EvaluationSample.labels ∧
        row.metrics.Within 1 ∧ (row.metrics.ndcg = 1 ↔ ∀ s ∈ row.samples, s.Leads sampleEvaluation.topK) :=
  runEvaluation_bounded _ discounts_log (fun _ => sampleLibrary) librarian sampleEvaluation

/-- The run goes through. -/
example : (runEvaluation (fun rank : Nat => 1 / ((rank : ℚ) + 1)) (fun _ => sampleLibrary) librarian sampleEvaluation).isOk = true := by
  decide +kernel

end NovaCommerce.Console
