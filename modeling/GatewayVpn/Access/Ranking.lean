import GatewayVpn.Numeral

/-!
# Access: ranking the candidates

`accesspolicy.Rank` picks the path the gateway should use from the fresh candidates.  Its
comparison function is turned into a key in a linear order, which makes it a strict weak order and
the first element after the stable sort a minimum.  Candidates have different keys, so the minimum
is unique and does not depend on the order of the input.
-/

namespace GatewayVpn.Access

open List

/-! ## candidates -/

inductive MethodKind where
  | direct
  | subscription
  | other (text : String)
  deriving DecidableEq

inductive Quality where
  | unknown
  | full
  | limited
  | whitelistOnly
  | failed
  | other (text : String)
  deriving DecidableEq

inductive Fault where
  | text (message : String)
  | noCandidate
  | notFound
  | staleGeneration
  | policyGraceExpired
  | joined (first rest : Fault)
  | within (context : String) (cause : Fault)
  deriving DecidableEq

structure Candidate where
  key : String
  pathID : String
  methodID : String
  methodKind : MethodKind
  uplinkID : String
  subscriptionID : String := ""
  nodeID : String := ""
  quality : Quality
  functionalScore : Int
  methodPriority : Int
  uplinkPriority : Int
  nodePriority : Int := 0
  methodEnabled : Bool := true
  uplinkReady : Bool := true
  nodeAllowed : Bool := true
  fresh : Bool := true
  policyGeneration : Int
  routeGeneration : Int

def validateCandidate (candidate : Candidate) : Except Fault Unit :=
  if trimSpace candidate.key = "" || trimSpace candidate.methodID = "" ||
      trimSpace candidate.uplinkID = "" then
    .error (.text "access candidate key, method, and uplink are required")
  else if candidate.methodPriority ≤ 0 || candidate.uplinkPriority ≤ 0 ||
      candidate.functionalScore < 0 then
    .error (.text "access candidate priorities and functional score are invalid")
  else match candidate.quality with
  | .other text =>
    .error (.text ("access candidate " ++ candidate.key ++ " has invalid quality " ++ quote text))
  | quality =>
  if (quality = .limited || quality = .whitelistOnly) && candidate.functionalScore = 0 then
    .error (.text "limited access candidate requires a positive functional score")
  else match candidate.methodKind with
  | .direct =>
    if candidate.subscriptionID ≠ "" || candidate.nodeID ≠ "" || candidate.nodePriority ≠ 0 then
      .error (.text "direct candidate cannot contain subscription or node identity")
    else .ok ()
  | .subscription =>
    if trimSpace candidate.subscriptionID = "" || trimSpace candidate.nodeID = "" ||
        candidate.nodePriority ≤ 0 then
      .error (.text "subscription candidate requires subscription, node, and node priority")
    else .ok ()
  | .other text =>
    .error (.text ("access candidate " ++ candidate.key ++ " has invalid method kind " ++
      quote text))

/-! ## the choice -/

def qualityRank : Quality → Nat
  | .full => 2
  | .limited => 1
  | .whitelistOnly => 1
  | _ => 0

def partialQuality (quality : Quality) : Bool := quality = .limited || quality = .whitelistOnly

def candidateLess (currentKey : String) (left right : Candidate) : Bool :=
  if qualityRank left.quality ≠ qualityRank right.quality then
    qualityRank left.quality > qualityRank right.quality
  else if partialQuality left.quality && left.functionalScore ≠ right.functionalScore then
    left.functionalScore > right.functionalScore
  else if left.methodPriority ≠ right.methodPriority then
    left.methodPriority < right.methodPriority
  else if left.uplinkPriority ≠ right.uplinkPriority then
    left.uplinkPriority < right.uplinkPriority
  else if left.nodePriority ≠ right.nodePriority then
    left.nodePriority < right.nodePriority
  else if decide (left.key = currentKey) ≠ decide (right.key = currentKey) then
    left.key = currentKey
  else lexLess left.key.toList right.key.toList

structure Decision where
  candidate : Candidate
  sticky : Bool
  reason : String

def eligible (candidate : Candidate) : Bool :=
  candidate.methodEnabled && candidate.uplinkReady && candidate.nodeAllowed && candidate.fresh &&
    (candidate.quality = .full || candidate.quality = .limited ||
      candidate.quality = .whitelistOnly)

/-- the loop of `Rank` over the candidates, with the keys seen so far -/
def rankLoop (seen : List String) : List Candidate → Except Fault (List Candidate)
  | [] => .ok []
  | candidate :: rest =>
    match validateCandidate candidate with
    | .error err => .error err
    | .ok () =>
    if candidate.key ∈ seen then
      .error (.text ("duplicate access candidate key " ++ quote candidate.key))
    else match rankLoop (candidate.key :: seen) rest with
    | .error err => .error err
    | .ok found => .ok (if eligible candidate then candidate :: found else found)

def sortCandidates (currentKey : String) (candidates : List Candidate) : List Candidate :=
  candidates.insertionSort fun left right => !candidateLess currentKey right left

def decisionFor (currentKey : String) (winner : Candidate) : Decision :=
  let sticky : Bool := winner.key = currentKey
  let reason := if partialQuality winner.quality then "LIMITED_FUNCTIONAL_SCORE"
    else "FULL_PRIORITY"
  { candidate := winner, sticky, reason := if sticky then reason ++ "_STICKY_TIE" else reason }

def rank (candidates : List Candidate) (currentKey : String) : Except Fault Decision :=
  match rankLoop [] candidates with
  | .error err => .error err
  | .ok found =>
  match sortCandidates currentKey found with
  | [] => .error .noCandidate
  | winner :: _ => .ok (decisionFor currentKey winner)

/-! ## the order behind the comparison -/

/-- the order of the policy, best first -/
def merit (candidate : Candidate) : ℕ ×ₗ ℤ ×ₗ ℤ ×ₗ ℤ ×ₗ ℤ :=
  toLex (2 - qualityRank candidate.quality,
    toLex (if partialQuality candidate.quality then -candidate.functionalScore else 0,
      toLex (candidate.methodPriority, toLex (candidate.uplinkPriority, candidate.nodePriority))))

section
variable (currentKey : String)

/-- the order of the sort: ties go to the current path, then to the smaller key -/
def standing (candidate : Candidate) :
    (ℕ ×ₗ ℤ ×ₗ ℤ ×ₗ ℤ ×ₗ ℤ) ×ₗ ℕ ×ₗ List Char :=
  toLex (merit candidate,
    toLex (if candidate.key = currentKey then 0 else 1, candidate.key.toList))

theorem qualityRank_le (quality : Quality) : qualityRank quality ≤ 2 := by
  cases quality <;> simp [qualityRank]

theorem partialQuality_iff (quality : Quality) :
    partialQuality quality = true ↔ qualityRank quality = 1 := by
  cases quality <;> simp [partialQuality, qualityRank]

theorem tie_iff (left right : Candidate) :
    (if decide (left.key = currentKey) ≠ decide (right.key = currentKey) then
      decide (left.key = currentKey) else lexLess left.key.toList right.key.toList) = true ↔
      (toLex (if left.key = currentKey then 0 else 1, left.key.toList) : ℕ ×ₗ List Char) <
        toLex (if right.key = currentKey then 0 else 1, right.key.toList) := by
  rw [Prod.Lex.toLex_lt_toLex, ← lexLess_iff]
  by_cases hcl : left.key = currentKey <;> by_cases hcr : right.key = currentKey <;>
    simp [hcl, hcr]

theorem candidateLess_iff (left right : Candidate) :
    candidateLess currentKey left right = true ↔
      standing currentKey left < standing currentKey right := by
  have hl := qualityRank_le left.quality
  have hr := qualityRank_le right.quality
  rw [candidateLess, standing, standing, Prod.Lex.toLex_lt_toLex, ← tie_iff]
  simp only [merit, Prod.Lex.toLex_lt_toLex, toLex_inj, Prod.mk.injEq]
  by_cases hclass : qualityRank left.quality = qualityRank right.quality
  · have hpart : partialQuality right.quality = partialQuality left.quality := by
      rw [Bool.eq_iff_iff, partialQuality_iff, partialQuality_iff, hclass]
    rw [hpart, if_neg (not_not.mpr hclass), hclass]
    by_cases hscore : partialQuality left.quality = true ∧
        left.functionalScore ≠ right.functionalScore
    · rw [if_pos (by simpa using hscore), if_pos hscore.1, if_pos hscore.1]
      have hne : left.functionalScore ≠ right.functionalScore := hscore.2
      simp [hne]
    rw [if_neg (by simpa using hscore)]
    have heq : (if partialQuality left.quality then -left.functionalScore else 0) =
        if partialQuality left.quality then -right.functionalScore else 0 := by
      by_cases hp : partialQuality left.quality = true
      · rw [if_pos hp, if_pos hp, not_ne_iff.mp fun h => hscore ⟨hp, h⟩]
      · rw [if_neg hp, if_neg hp]
    rw [heq]
    by_cases hm : left.methodPriority = right.methodPriority <;>
      by_cases hu : left.uplinkPriority = right.uplinkPriority <;>
      by_cases hn : left.nodePriority = right.nodePriority <;>
      simp [hm, hu, hn]
  · have hne : 2 - qualityRank left.quality ≠ 2 - qualityRank right.quality := by omega
    have hlt : qualityRank right.quality < qualityRank left.quality ↔
        2 - qualityRank left.quality < 2 - qualityRank right.quality := by omega
    rw [if_pos hclass]
    simp only [gt_iff_lt, decide_eq_true_eq, hlt, hne, false_and, or_false]

theorem candidateLess_eq_false_iff (left right : Candidate) :
    (!candidateLess currentKey right left) = true ↔
      standing currentKey left ≤ standing currentKey right := by
  rw [Bool.not_eq_true', ← Bool.not_eq_true, candidateLess_iff, not_lt]

end

variable {currentKey : String}

theorem key_eq_of_standing_eq {left right : Candidate}
    (h : standing currentKey left = standing currentKey right) : left.key = right.key := by
  have hkey : left.key.toList = right.key.toList :=
    congrArg (fun s => (ofLex (ofLex s).2).2) h
  exact String.toList_inj.mp hkey

/-! ## the loop and the sort -/

variable {candidates : List Candidate}

theorem rankLoop_ok {seen : List String} (hvalid : ∀ c ∈ candidates, validateCandidate c = .ok ())
    (hkeys : (candidates.map (·.key)).Nodup) (hseen : ∀ c ∈ candidates, c.key ∉ seen) :
    rankLoop seen candidates = .ok (candidates.filter eligible) := by
  induction candidates generalizing seen with
  | nil => rfl
  | cons c cs ih =>
    rw [map_cons, nodup_cons] at hkeys
    have hrest : ∀ c' ∈ cs, c'.key ∉ c.key :: seen := by
      intro c' hc' hmem
      rcases mem_cons.mp hmem with heq | hmem
      · exact hkeys.1 (heq ▸ mem_map_of_mem hc')
      · exact hseen c' (mem_cons_of_mem _ hc') hmem
    rw [rankLoop, hvalid c mem_cons_self]
    simp only [hseen c mem_cons_self, if_false,
      ih (fun c' hc' => hvalid c' (mem_cons_of_mem _ hc')) hkeys.2 hrest, filter_cons]

variable {c : Candidate}

theorem mem_sortCandidates : c ∈ sortCandidates currentKey candidates ↔ c ∈ candidates :=
  (perm_insertionSort _ _).mem_iff

theorem sortCandidates_cons {rest : List Candidate} {winner : Candidate}
    (h : sortCandidates currentKey candidates = winner :: rest) :
    ∀ c ∈ candidates, standing currentKey winner ≤ standing currentKey c := by
  have : Std.Total fun a b : Candidate => (!candidateLess currentKey b a) = true := ⟨by
    intro a b
    rw [candidateLess_eq_false_iff, candidateLess_eq_false_iff]
    exact le_total _ _⟩
  have : IsTrans Candidate fun a b => (!candidateLess currentKey b a) = true := ⟨by
    intro a b c hab hbc
    rw [candidateLess_eq_false_iff] at hab hbc ⊢
    exact hab.trans hbc⟩
  have hsorted := pairwise_insertionSort
    (fun a b : Candidate => (!candidateLess currentKey b a) = true) candidates
  intro c hc
  have hmem : c ∈ winner :: rest := h ▸ mem_sortCandidates.mpr hc
  rw [show insertionSort _ candidates = winner :: rest from h, pairwise_cons] at hsorted
  rcases mem_cons.mp hmem with rfl | hmem
  · exact le_rfl
  · exact (candidateLess_eq_false_iff currentKey winner c).mp (hsorted.1 c hmem)

theorem rankLoop_valid {seen : List String} {found : List Candidate}
    (h : rankLoop seen candidates = .ok found) :
    (∀ c ∈ candidates, validateCandidate c = .ok ()) ∧ ∀ c ∈ found, c ∈ candidates := by
  induction candidates generalizing seen found with
  | nil =>
    cases h
    exact ⟨fun c hc => absurd hc not_mem_nil, fun c hc => hc⟩
  | cons candidate rest ih =>
    rw [rankLoop] at h
    split at h
    · cases h
    rename_i hvalid
    split at h
    · cases h
    split at h
    · cases h
    rename_i found' hrest
    obtain ⟨hvalidRest, hsub⟩ := ih hrest
    cases h
    refine ⟨?_, ?_⟩
    · intro c hc
      rcases mem_cons.mp hc with rfl | hc
      · exact hvalid
      · exact hvalidRest c hc
    intro c hc
    split at hc
    · rcases mem_cons.mp hc with rfl | hc
      · exact mem_cons_self
      · exact mem_cons_of_mem _ (hsub c hc)
    · exact mem_cons_of_mem _ (hsub c hc)

variable {decision : Decision}

theorem rank_keys (h : rank candidates currentKey = .ok decision) :
    decision.candidate ∈ candidates ∧ ∀ c ∈ candidates, trimSpace c.key ≠ "" := by
  rw [rank] at h
  split at h
  · cases h
  rename_i found hfound
  obtain ⟨hvalid, hsub⟩ := rankLoop_valid hfound
  split at h
  · cases h
  rename_i winner rest hsort
  cases h
  refine ⟨hsub _ (mem_sortCandidates.mp (hsort ▸ mem_cons_self)), ?_⟩
  intro c hc hblank
  have hok := hvalid c hc
  simp [validateCandidate, hblank] at hok

theorem rank_key_ne (h : rank candidates currentKey = .ok decision) :
    trimSpace decision.candidate.key ≠ "" :=
  (rank_keys h).2 _ (rank_keys h).1

/-! ## the contract -/

section
variable {candidates : List Candidate} {currentKey : String}
variable (hvalid : ∀ c ∈ candidates, validateCandidate c = .ok ())
variable (hkeys : (candidates.map (·.key)).Nodup)
include hvalid hkeys

theorem rank_eq : rank candidates currentKey =
    match sortCandidates currentKey (candidates.filter eligible) with
    | [] => .error .noCandidate
    | winner :: _ => .ok (decisionFor currentKey winner) := by
  rw [rank, rankLoop_ok hvalid hkeys (fun _ _ => not_mem_nil)]

theorem rank_eq_noCandidate_iff (currentKey : String) :
    rank candidates currentKey = .error .noCandidate ↔ ∀ c ∈ candidates, eligible c = false := by
  rw [rank_eq hvalid hkeys]
  cases hsort : sortCandidates currentKey (candidates.filter eligible) with
  | nil =>
    have hnone : ∀ c ∈ candidates, eligible c = false := by
      intro c hc
      by_contra helig
      have : c ∈ sortCandidates currentKey (candidates.filter eligible) :=
        mem_sortCandidates.mpr (mem_filter.mpr ⟨hc, by simpa using helig⟩)
      rw [hsort] at this
      exact absurd this not_mem_nil
    simpa using hnone
  | cons winner rest =>
  have hmem : winner ∈ candidates.filter eligible :=
    mem_sortCandidates.mp (hsort ▸ mem_cons_self)
  rw [mem_filter] at hmem
  refine iff_of_false (by simp) fun hnone => ?_
  rw [hnone winner hmem.1] at hmem
  exact absurd hmem.2 (by simp)

section
variable (h : rank candidates currentKey = .ok decision)
include h

theorem rank_eq_ok :
    decision = decisionFor currentKey decision.candidate ∧ decision.candidate ∈ candidates ∧
      eligible decision.candidate = true ∧ ∀ c ∈ candidates, eligible c = true →
        standing currentKey decision.candidate ≤ standing currentKey c := by
  rw [rank_eq hvalid hkeys] at h
  cases hsort : sortCandidates currentKey (candidates.filter eligible) with
  | nil =>
    rw [hsort] at h
    cases h
  | cons winner rest =>
  rw [hsort] at h
  have hmem : winner ∈ candidates.filter eligible :=
    mem_sortCandidates.mp (hsort ▸ mem_cons_self)
  rw [mem_filter] at hmem
  rw [← Except.ok.inj h]
  exact ⟨rfl, hmem.1, hmem.2, fun c hc helig =>
    sortCandidates_cons hsort c (mem_filter.mpr ⟨hc, helig⟩)⟩

theorem rank_merit_le :
    ∀ c ∈ candidates, eligible c = true → merit decision.candidate ≤ merit c := by
  intro c hc helig
  have hle := (rank_eq_ok hvalid hkeys h).2.2.2 c hc helig
  exact (Prod.Lex.le_iff.mp hle).elim le_of_lt fun h => h.1.le

theorem rank_current_wins (hc : c ∈ candidates)
    (helig : eligible c = true) (hcur : c.key = currentKey)
    (hbest : ∀ c' ∈ candidates, eligible c' = true → ¬ merit c' < merit c) :
    decision.candidate.key = currentKey := by
  obtain ⟨_, hmem, hwin, hall⟩ := rank_eq_ok hvalid hkeys h
  have hmerit : merit decision.candidate = merit c :=
    le_antisymm (rank_merit_le hvalid hkeys h c hc helig)
      (not_lt.mp (hbest decision.candidate hmem hwin))
  by_contra hne
  have hlt : standing currentKey c < standing currentKey decision.candidate := by
    refine Prod.Lex.toLex_lt_toLex.mpr (Or.inr ⟨hmerit.symm, ?_⟩)
    exact Prod.Lex.toLex_lt_toLex.mpr (Or.inl (by simp [hcur, hne]))
  exact absurd (hall c hc helig) (not_le.mpr hlt)

end

theorem rank_ok_of_eligible (currentKey : String) (hc : c ∈ candidates)
    (helig : eligible c = true) : ∃ decision, rank candidates currentKey = .ok decision := by
  have hsome := mt (rank_eq_noCandidate_iff hvalid hkeys currentKey).mp
    fun hnone => by
      rw [hnone c hc] at helig
      cases helig
  rw [rank_eq hvalid hkeys] at hsome ⊢
  cases hsort : sortCandidates currentKey (candidates.filter eligible) with
  | nil =>
    rw [hsort] at hsome
    exact absurd rfl hsome
  | cons winner rest => exact ⟨_, rfl⟩

theorem rank_perm {candidates' : List Candidate} (hperm : candidates.Perm candidates') :
    rank candidates' currentKey = rank candidates currentKey := by
  have hvalid' : ∀ c ∈ candidates', validateCandidate c = .ok () :=
    fun c hc => hvalid c (hperm.mem_iff.mpr hc)
  have hkeys' : (candidates'.map (·.key)).Nodup := (hperm.map _).nodup_iff.mp hkeys
  by_cases hnone : ∀ c ∈ candidates, eligible c = false
  · rw [(rank_eq_noCandidate_iff hvalid hkeys _).mpr hnone,
      (rank_eq_noCandidate_iff hvalid' hkeys' _).mpr fun c hc => hnone c (hperm.mem_iff.mpr hc)]
  push Not at hnone
  obtain ⟨c, hc, helig⟩ := hnone
  rw [ne_eq, Bool.not_eq_false] at helig
  obtain ⟨d, hd⟩ := rank_ok_of_eligible hvalid hkeys currentKey hc helig
  obtain ⟨d', hd'⟩ := rank_ok_of_eligible hvalid' hkeys' currentKey
    (hperm.mem_iff.mp hc) helig
  obtain ⟨hform, hmem, hwin, hall⟩ := rank_eq_ok hvalid hkeys hd
  obtain ⟨hform', hmem', hwin', hall'⟩ := rank_eq_ok hvalid' hkeys' hd'
  -- each of the two winners stands before the other, so they are one candidate
  have hstanding : standing currentKey d.candidate = standing currentKey d'.candidate :=
    le_antisymm (hall d'.candidate (hperm.mem_iff.mpr hmem') hwin')
      (hall' d.candidate (hperm.mem_iff.mp hmem) hwin)
  have hsame : d.candidate = d'.candidate :=
    inj_on_of_nodup_map hkeys hmem (hperm.mem_iff.mpr hmem')
      (key_eq_of_standing_eq hstanding)
  rw [hd, hd', hform, hform', hsame]

/-- **the contract of `Rank`**: no choice without an eligible candidate; otherwise an eligible one
that none beats, the current path exactly when it is among the best, whatever the input order -/
theorem rank_spec (currentKey : String) :
    (rank candidates currentKey = .error .noCandidate ↔ ∀ c ∈ candidates, eligible c = false) ∧
      ((∃ c ∈ candidates, eligible c = true) → ∃ decision,
        rank candidates currentKey = .ok decision ∧ decision.candidate ∈ candidates ∧
          eligible decision.candidate = true ∧
          (∀ c ∈ candidates, eligible c = true → ¬ merit c < merit decision.candidate) ∧
          (decision.candidate.key = currentKey ↔ ∃ c ∈ candidates, eligible c = true ∧
            c.key = currentKey ∧
            ∀ c' ∈ candidates, eligible c' = true → ¬ merit c' < merit c)) ∧
      ∀ candidates' : List Candidate, candidates.Perm candidates' →
        rank candidates' currentKey = rank candidates currentKey := by
  refine ⟨rank_eq_noCandidate_iff hvalid hkeys _, ?_, fun _ hperm => rank_perm hvalid hkeys hperm⟩
  rintro ⟨c, hc, helig⟩
  obtain ⟨decision, h⟩ := rank_ok_of_eligible hvalid hkeys currentKey hc helig
  obtain ⟨_, hmem, hwin, _⟩ := rank_eq_ok hvalid hkeys h
  have hbest : ∀ c ∈ candidates, eligible c = true → ¬ merit c < merit decision.candidate :=
    fun c hc helig => not_lt.mpr (rank_merit_le hvalid hkeys h c hc helig)
  refine ⟨decision, h, hmem, hwin, hbest, fun hcur => ⟨_, hmem, hwin, hcur, hbest⟩, ?_⟩
  rintro ⟨c, hc, helig, hcur, hc'⟩
  exact rank_current_wins hvalid hkeys h hc helig hcur hc'

end

def sampleDirect : Candidate :=
  { key := "direct:path:u1", pathID := "direct:path:u1", methodID := "access:direct",
    methodKind := .direct, uplinkID := "u1", quality := .limited, functionalScore := 3000,
    methodPriority := 1, uplinkPriority := 1, policyGeneration := 1, routeGeneration := 1 }

def sampleNode : Candidate :=
  { key := "p1:n1", pathID := "p1", methodID := "access:s1", methodKind := .subscription,
    uplinkID := "u1", subscriptionID := "s1", nodeID := "n1", quality := .full,
    functionalScore := 2000, methodPriority := 2, uplinkPriority := 1, nodePriority := 1,
    policyGeneration := 1, routeGeneration := 1 }

theorem rank_spec_sample :
    (∀ c ∈ [sampleDirect, sampleNode], validateCandidate c = .ok ()) ∧
      ([sampleDirect, sampleNode].map (·.key)).Nodup ∧
      ∃ decision, rank [sampleDirect, sampleNode] "" = .ok decision ∧
        eligible decision.candidate = true := by
  have hvalid : ∀ c ∈ [sampleDirect, sampleNode], validateCandidate c = .ok () := by
    intro c hc
    rcases mem_pair.mp hc with rfl | rfl <;> rfl
  have hkeys : ([sampleDirect, sampleNode].map (·.key)).Nodup := by decide
  obtain ⟨decision, h, _, helig, _⟩ := (rank_spec hvalid hkeys "").2.1
    ⟨sampleNode, by simp, by decide⟩
  exact ⟨hvalid, hkeys, decision, h, helig⟩

end GatewayVpn.Access
