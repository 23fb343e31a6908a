import GrowthOs.Delegation.Dispatch
import GrowthOs.Delegation.Renewal

/-!
# Two normalisers of one grant

The renewal check and the execution policy read a grant through normalisers of
their own.  `Grant.ReadFrom` and `CanonicalGrant.ReadFrom` say what each takes
from the input; on a grant that both accept the results agree field by field,
except that the canonical form keeps the plan id in lower case.
-/

namespace GrowthOs.Delegation

open Js Throwing List

variable {value : Val} {n : Nat} {text : String}

/-- Cutting a text at two lengths makes no difference when it is shorter than
both. -/
theorem lower_eq_of_short {m : Nat} {text' : String} (h : lower value m = .ok text)
    (h' : lower value n = .ok text') (hm : text.toList.length < m) (hn : text.toList.length < n) :
    text' = text := by
  simp only [lower, compact, bind_eq_ok] at h h'
  obtain ⟨_, ⟨raw, hraw, hcut⟩, htext⟩ := h
  obtain ⟨_, ⟨raw', hraw', hcut'⟩, htext'⟩ := h'
  cases hcut
  cases htext
  cases hcut'
  cases htext'
  cases hraw.symm.trans hraw'
  have hlength : (trimChars raw.toList).length < m ∧ (trimChars raw.toList).length < n := by
    simp only [toLowerCase, String.toList_ofList, length_map, length_take] at hm hn
    omega
  rw [take_of_length_le (Nat.le_of_lt hlength.1),
    take_of_length_le (Nat.le_of_lt hlength.2)]

theorem RiskTier.eq_text_of_ofText {tier : RiskTier} (h : RiskTier.ofText text = some tier) :
    text = tier.text := by
  unfold RiskTier.ofText at h
  split at h <;> cases h <;> rfl

theorem CanonicalStatus.eq_text_of_ofText {status : CanonicalStatus}
    (h : CanonicalStatus.ofText text = some status) : text = status.text := by
  unfold CanonicalStatus.ofText at h
  split at h <;> cases h <;> rfl

theorem ApprovalMode.eq_text_of_ofText {mode : ApprovalMode}
    (h : ApprovalMode.ofText text = some mode) : text = mode.text := by
  unfold ApprovalMode.ofText at h
  split at h <;> cases h <;> rfl

theorem CanonicalMode.eq_text_of_ofText {mode : CanonicalMode}
    (h : CanonicalMode.ofText text = some mode) : text = mode.text := by
  unfold CanonicalMode.ofText at h
  split at h
  · next hglass =>
      cases h
      exact hglass
  · rw [Option.map_eq_some_iff] at h
    obtain ⟨m, hm, rfl⟩ := h
    exact ApprovalMode.eq_text_of_ofText hm

theorem RiskTier.text_short (tier : RiskTier) : tier.text.toList.length < 32 := by
  cases tier <;> decide

theorem CanonicalStatus.text_short (status : CanonicalStatus) : status.text.toList.length < 32 := by
  cases status <;> decide

theorem CanonicalMode.text_short (mode : CanonicalMode) : mode.text.toList.length < 64 := by
  cases mode with
  | policy mode => cases mode <;> decide
  | breakGlass => decide

/-- A limit that the canonical form accepts is read the same way by the
execution policy, whose default only replaces `null`. -/
theorem toNumber_coalesce_zero {number : Number} (hnumber : value.toNumber = .ok number)
    (hnat : naturalOf number = some n) :
    (value.coalesce (.num (.ofNat 0))).toNumber = .ok number := by
  cases value with
  | undefined =>
    cases hnumber
    cases hnat
  | _ => exact hnumber

variable {field : String}

theorem canonicalLimit_ok {maximum : Nat} {value : Number}
    (h : canonicalLimit field maximum value = .ok n) : naturalOf value = some n := by
  unfold canonicalLimit at h
  split at h
  · next found hfound =>
      simp only [bind_eq_ok] at h
      obtain ⟨-, -, heq⟩ := h
      cases heq
      exact hfound
  · cases h

theorem limitOf_of_natural {value : Number} (h : naturalOf value = some n) :
    limitOf field value = .ok n := by
  simp [limitOf, h]

variable {input : Val}

/-- Limits in canonical form are the limits the execution policy reads. -/
theorem normalizeLimits_of_canonical {limits : GrantLimits}
    (h : normalizeCanonicalLimits (input.member "limits") = .ok limits) :
    normalizeLimits input = .ok limits := by
  simp only [normalizeCanonicalLimits, bind_eq_ok] at h
  obtain ⟨v₁, hv₁, mutations, hmutations, v₂, hv₂, retries, hretries, v₃, hv₃,
    pulls, hpulls, n₁, hn₁, n₂, hn₂, n₃, hn₃, heq⟩ := h
  cases heq
  have hn₁ := canonicalLimit_ok hn₁
  have hn₂ := canonicalLimit_ok hn₂
  have hn₃ := canonicalLimit_ok hn₃
  by_cases hundefined : (input.member "limits").isUndefined = true
  · -- Without limits every number is `NaN`.
    rw [if_pos hundefined] at hv₁
    cases hv₁
    cases hmutations
    cases hn₁
  · rw [if_neg hundefined] at hv₁ hv₂ hv₃
    rw [Val.get_ok hv₁] at hmutations
    rw [Val.get_ok hv₂] at hretries
    rw [Val.get_ok hv₃] at hpulls
    simp only [normalizeLimits, bind_eq_ok]
    exact ⟨mutations, toNumber_coalesce_zero hmutations hn₁,
      retries, toNumber_coalesce_zero hretries hn₂,
      pulls, toNumber_coalesce_zero hpulls hn₃,
      n₁, limitOf_of_natural hn₁, n₂, limitOf_of_natural hn₂,
      n₃, limitOf_of_natural hn₃, rfl⟩

theorem normalizeHash_ok {hash : String} (h : normalizeHash value field = .ok hash) :
    lower value 64 = .ok hash ∧ isDigest hash = true := by
  simp only [normalizeHash, bind_eq_ok, rejectIf_eq_ok] at h
  obtain ⟨text, htext, -, hdigest, heq⟩ := h
  cases heq
  exact ⟨htext, by simpa using hdigest⟩

/-- An item of a canonical scope is an object, and the execution policy reads
the same binding from it. -/
theorem normalizeScopeEntry_ok {index : Nat} {entry : ResourceEntry}
    (h : normalizeScopeEntry index value = .ok entry) :
    value.isPlainObject = true ∧ normalizeResourceEntry value = .ok entry ∧
      entry.resourceUri ≠ "" ∧ isDigest entry.snapshotHash = true := by
  simp only [normalizeScopeEntry, bind_eq_ok, rejectIf_eq_ok] at h
  obtain ⟨-, hobject, uri, huri, -, hnonempty, hash, hhash, heq⟩ := h
  cases heq
  obtain ⟨hlower, hdigest⟩ := normalizeHash_ok hhash
  refine ⟨by simpa using hobject, ?_, hnonempty, hdigest⟩
  simp only [normalizeResourceEntry, bind_eq_ok]
  exact ⟨uri, huri, hash, hlower, rfl⟩

theorem collectScope_ok {index : Nat} {seen : List String} {elems : List Val}
    {entries : List ResourceEntry} (h : collectScope index seen elems = .ok entries) :
    (∀ value ∈ elems, value.isPlainObject = true) ∧
      elems.mapM normalizeResourceEntry = .ok entries ∧
      ∀ entry ∈ entries, entry.resourceUri ≠ "" ∧ isDigest entry.snapshotHash = true := by
  induction elems generalizing index seen entries with
  | nil =>
    cases h
    exact ⟨by simp, rfl, by simp⟩
  | cons value rest ih =>
    simp only [collectScope, bind_eq_ok] at h
    obtain ⟨entry, hentry, -, -, others, hothers, heq⟩ := h
    cases heq
    obtain ⟨hobject, hread, hvalid⟩ := normalizeScopeEntry_ok hentry
    obtain ⟨hobjects, hreads, hall⟩ := ih hothers
    refine ⟨?_, ?_, ?_⟩
    · exact forall_mem_cons.mpr ⟨hobject, hobjects⟩
    · simp only [mapM_cons, bind_eq_ok]
      exact ⟨entry, hread, others, hreads, rfl⟩
    · exact forall_mem_cons.mpr ⟨hvalid, hall⟩

variable {localeLe : String → String → Bool}

/-- A canonical scope is the scope the execution policy reads, sorted. -/
theorem normalizeCanonicalScope_ok {scope : List ResourceEntry}
    (h : normalizeCanonicalScope localeLe value = .ok scope) :
    ∃ entries, normalizeResourceScope value = .ok entries ∧
      entries.Perm scope ∧ entries ≠ [] ∧
      ∀ entry ∈ entries, isDigest entry.snapshotHash = true := by
  simp only [normalizeCanonicalScope, bind_eq_ok] at h
  obtain ⟨elems, helems, -, -, entries, hentries, heq⟩ := h
  cases heq
  unfold scopeElements at helems
  split at helems
  · next first rest =>
      cases helems
      obtain ⟨hobjects, hreads, hall⟩ := collectScope_ok hentries
      refine ⟨entries, ?_, (perm_insertionSort _ _).symm, ?_, ?_⟩
      · have hkept : (entries.filter fun entry =>
            entry.resourceUri != "" && isDigest entry.snapshotHash) = entries := by
          apply filter_eq_self.mpr
          intro entry hentry
          simp [hall entry hentry]
        rw [normalizeResourceScope, filter_eq_self.mpr hobjects, hreads, ok_bind, hkept]
      · rintro rfl
        cases mapM_eq_ok.mp hreads
      · intro entry hentry
        exact (hall entry hentry).2
  · cases helems

theorem normalizeStringSet_ok {required : Bool} {texts : List String}
    (h : normalizeStringSet value field required = .ok texts) :
    normalizeStringList value = .ok texts ∧ (required = true → texts ≠ []) := by
  cases value with
  | arr elems =>
    simp only [normalizeStringSet, bind_eq_ok, rejectIf_eq_ok] at h
    obtain ⟨found, hfound, -, hrequired, -, -, heq⟩ := h
    cases heq
    exact ⟨hfound, fun hreq hnil => hrequired ⟨hreq, hnil⟩⟩
  | _ => cases h

theorem requireSome_ok {α : Type} {error : Val} {found : Option α} {a : α}
    (h : requireSome error found = .ok a) : found = some a := by
  cases found with
  | none => cases h
  | some b =>
    cases h
    rfl

variable {rt : Runtime}

theorem parseDate_ok {t : Int} (h : parseDate rt value field = .ok t) :
    rt.timeOf value = some t := by
  unfold parseDate at h
  split at h
  · next u hu =>
      cases h
      exact hu
  · cases h

/-- A value with a `schema_version` text is not falsy. -/
theorem truthy_of_schemaVersion {version : Val} (hget : input.get "schema_version" = .ok version)
    (htext : isText grantSchemaVersion version = true) : input.truthy = true := by
  cases input with
  | undefined | null => cases hget
  | bool b | num x =>
    cases hget
    cases htext
  | str s =>
    by_cases hempty : s = ""
    · subst hempty
      cases hget
      cases htext
    · simp [Val.truthy, hempty]
  | arr elems | obj fields => rfl

/-- What the canonical form of a grant says about the fields the execution
policy reads. -/
structure CanonicalGrant.ReadFrom (rt : Runtime) (input : Val) (grant : CanonicalGrant) : Prop where
  truthy : input.truthy = true
  approvalMode : ∃ text, lower (input.member "approval_mode") 191 = .ok text ∧
    CanonicalMode.ofText text = some grant.approvalMode
  maxRiskTier : ∃ text, lower (input.member "max_risk_tier") 191 = .ok text ∧
    RiskTier.ofText text = some grant.maxRiskTier
  status : ∃ text, lower (input.member "status") 191 = .ok text ∧
    CanonicalStatus.ofText text = some grant.status
  requireReadback : (input.member "require_readback").isTrue = true
  stopOnDrift : (input.member "stop_on_drift").isTrue = true
  expiresAt : rt.timeOf (input.member "expires_at") = some grant.expiresAt
  delegatedBy : compact (input.member "delegated_by") 191 = .ok grant.delegatedBy
  delegatedTo : compact (input.member "delegated_to") 191 = .ok grant.delegatedTo
  allowedIntents : normalizeStringList (input.member "allowed_intents") =
    .ok grant.allowedIntents
  someIntent : grant.allowedIntents ≠ []
  deniedIntents : normalizeStringList (input.member "denied_intents") =
    .ok grant.deniedIntents
  disjoint : ∀ intent ∈ grant.allowedIntents, intent ∉ grant.deniedIntents
  planId : lower (input.member "plan_id") 64 = .ok grant.planId
  planHash : lower (input.member "plan_hash") 64 = .ok grant.planHash
  resourceScope : ∃ entries, normalizeResourceScope (input.member "resource_scope") = .ok entries ∧
      entries.Perm grant.resourceScope ∧ entries ≠ [] ∧
      ∀ entry ∈ entries, isDigest entry.snapshotHash = true
  limits : normalizeLimits input = .ok grant.limits

theorem normalizeCanonicalGrant_ok {grant : CanonicalGrant}
    (h : normalizeCanonicalGrant rt localeLe input = .ok grant) : grant.ReadFrom rt input := by
  simp only [normalizeCanonicalGrant, bind_eq_ok, rejectIf_eq_ok] at h
  obtain ⟨header, hheader, delegatedBy, hby, delegatedTo, hto, -, -, allowed,
    hallowed, denied, hdenied, -, hoverlap, grantId, -, planId, hplanId,
    planHash, hplanHash, scope, hscope, limits, hlimits, version, -, heq⟩ := h
  cases heq
  simp only [normalizeCanonicalHeader, bind_eq_ok, rejectIf_eq_ok] at hheader
  obtain ⟨schema, hschema, -, hversion, modeText, hmodeText, mode, hmode,
    riskText, hriskText, risk, hrisk, statusText, hstatusText, status, hstatus,
    -, hclosed, -, -, createdAt, -, expiresAt, hexpires, -, -, revokedAt, -,
    heq⟩ := hheader
  cases heq
  obtain ⟨hallowedList, hsome⟩ := normalizeStringSet_ok hallowed
  simp only [not_or, Bool.not_eq_false] at hclosed
  refine
    { truthy := truthy_of_schemaVersion hschema (by simpa using hversion)
      approvalMode := ⟨modeText, hmodeText, requireSome_ok hmode⟩
      maxRiskTier := ⟨riskText, hriskText, requireSome_ok hrisk⟩
      status := ⟨statusText, hstatusText, requireSome_ok hstatus⟩
      requireReadback := hclosed.1
      stopOnDrift := hclosed.2
      expiresAt := parseDate_ok hexpires
      delegatedBy := hby
      delegatedTo := hto
      allowedIntents := hallowedList
      someIntent := hsome rfl
      deniedIntents := (normalizeStringSet_ok hdenied).1
      disjoint := ?_
      planId := ?_
      planHash := (normalizeHash_ok hplanHash).1
      resourceScope := normalizeCanonicalScope_ok hscope
      limits := normalizeLimits_of_canonical hlimits }
  · intro intent hmem hden
    apply hoverlap
    apply ne_nil_of_mem
    exact mem_filter.mpr ⟨hmem, by simpa using hden⟩
  · simp only [normalizeUuid, bind_eq_ok] at hplanId
    obtain ⟨text, htext, -, -, heq⟩ := hplanId
    cases heq
    exact htext

/-- The two forms of one grant. -/
structure Agrees (grant : Grant) (canonical : CanonicalGrant) : Prop where
  status : grant.status = canonical.status.text
  approvalMode : canonical.approvalMode = .policy grant.approvalMode
  maxRiskTier : grant.maxRiskTier = canonical.maxRiskTier
  delegatedBy : grant.delegatedBy = canonical.delegatedBy
  delegatedTo : grant.delegatedTo = canonical.delegatedTo
  planId : toLowerCase grant.planId = canonical.planId
  planHash : grant.planHash = canonical.planHash
  resourceScope : grant.resourceScope.Perm canonical.resourceScope
  digests : ∀ entry ∈ grant.resourceScope, isDigest entry.snapshotHash = true
  allowedIntents : grant.allowedIntents = canonical.allowedIntents
  deniedIntents : grant.deniedIntents = canonical.deniedIntents
  limits : grant.limits = canonical.limits
  expiresAt : grant.expiresAt = canonical.expiresAt

/-- On a grant that both normalisers accept, their results agree. -/
theorem agrees_of_readFrom {grant : Grant} {canonical : CanonicalGrant}
    (hgrant : grant.ReadFrom rt input) (hcanonical : canonical.ReadFrom rt input) :
    Agrees grant canonical := by
  obtain ⟨statusText, hlowerStatus, hstatus⟩ := hcanonical.status
  obtain ⟨modeText, hlowerMode, hmode⟩ := hcanonical.approvalMode
  obtain ⟨riskText, hlowerRisk, hrisk⟩ := hcanonical.maxRiskTier
  obtain ⟨modeText', hlowerMode', hmode'⟩ := hgrant.approvalMode
  obtain ⟨riskText', hlowerRisk', hrisk'⟩ := hgrant.maxRiskTier
  have hstatusShort := canonical.status.text_short
  have hmodeShort := canonical.approvalMode.text_short
  have hriskShort := canonical.maxRiskTier.text_short
  rw [← CanonicalStatus.eq_text_of_ofText hstatus] at hstatusShort
  rw [← CanonicalMode.eq_text_of_ofText hmode] at hmodeShort
  rw [← RiskTier.eq_text_of_ofText hrisk] at hriskShort
  have hsameMode : modeText' = modeText :=
    lower_eq_of_short hlowerMode hlowerMode' (by omega) hmodeShort
  have hsameRisk : riskText' = riskText :=
    lower_eq_of_short hlowerRisk hlowerRisk' (by omega) hriskShort
  obtain ⟨entries, hentries, hperm, -, hdigests⟩ := hcanonical.resourceScope
  have hscope : entries = grant.resourceScope :=
    Except.ok.inj (hentries.symm.trans hgrant.resourceScope)
  subst hsameMode
  subst hsameRisk
  subst hscope
  refine
    { status := ?_
      approvalMode := ?_
      maxRiskTier := Option.some.inj (hrisk'.symm.trans hrisk)
      delegatedBy :=
        Except.ok.inj (hgrant.delegatedBy.symm.trans hcanonical.delegatedBy)
      delegatedTo :=
        Except.ok.inj (hgrant.delegatedTo.symm.trans hcanonical.delegatedTo)
      planId := ?_
      planHash := Except.ok.inj (hgrant.planHash.symm.trans hcanonical.planHash)
      resourceScope := hperm
      digests := hdigests
      allowedIntents := Except.ok.inj (hgrant.allowedIntents.symm.trans hcanonical.allowedIntents)
      deniedIntents := Except.ok.inj (hgrant.deniedIntents.symm.trans hcanonical.deniedIntents)
      limits := Except.ok.inj (hgrant.limits.symm.trans hcanonical.limits)
      expiresAt :=
        Option.some.inj (hgrant.expiresAt.symm.trans hcanonical.expiresAt) }
  · rw [← CanonicalStatus.eq_text_of_ofText hstatus]
    exact lower_eq_of_short hlowerStatus hgrant.status (by omega) hstatusShort
  · unfold CanonicalMode.ofText at hmode
    by_cases hglass : modeText' = "break_glass"
    · subst hglass
      cases hmode'
    · rw [if_neg hglass, hmode'] at hmode
      exact (Option.some.inj hmode).symm
  · have hlower := hcanonical.planId
    unfold lower at hlower
    rw [hgrant.planId] at hlower
    exact Except.ok.inj hlower

end GrowthOs.Delegation
