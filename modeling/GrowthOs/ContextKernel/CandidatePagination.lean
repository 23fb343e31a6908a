import GrowthOs.Js.Text
import GrowthOs.Js.JsonRoundTrip
import GrowthOs.Support.Throwing
import GrowthOs.Support.KeysetPaging
import Mathlib.Data.List.Sort

/-!
# Pages of candidates

`contextKernel/api/candidatePagination.js`, with the checks it takes from
`apiSupport.js`.  The cursor of a page holds the sort key of its last
candidate, and the next call looks this key up in the list it sorts again.
-/

namespace GrowthOs.ContextKernel

open Js Throwing List

/-! ## Checks of the API layer -/

/-- `new ContextApiValidationError(message, details)`. -/
def contextApiValidationError (message : String) (details : List Val) : Val :=
  .obj [("message", .str message), ("name", .str "ContextApiValidationError"),
    ("code", .str "VALIDATION_ERROR"), ("status", .num (.ofNat 400)),
    ("details", .arr details)]

def fieldIssue (field issue : String) : Val :=
  .obj [("field", .str field), ("issue", .str issue)]

def requireString (value : Val) (fieldName : String) (minLength maxLength : Nat) :
    Except Val String :=
  match value with
  | .str s => do
    rejectIf (utf16Length (trim s) < minLength ∨ maxLength < utf16Length (trim s))
      (contextApiValidationError (fieldName ++ " has an invalid length.")
        [fieldIssue fieldName ("length must be between " ++ toString minLength ++
          " and " ++ toString maxLength)])
    .ok (trim s)
  | _ =>
    .error (contextApiValidationError (fieldName ++ " must be a string.")
      [fieldIssue fieldName "must be a string"])

/-- The integer a value stands for; a text that is not blank is read as a
number. -/
def integerValue : Val → Option Int
  | .str s => if trim s = "" then none else integerOf (stringToNumber s)
  | .num n => integerOf n
  | _ => none

def requireInteger (value : Val) (fieldName : String) (min max : Nat) : Except Val Nat :=
  let range := "must be an integer between " ++ toString min ++ " and " ++ toString max
  let error := contextApiValidationError (fieldName ++ " " ++ range ++ ".")
    [fieldIssue fieldName range]
  match integerValue value with
  | some parsed => do
    rejectIf (parsed < min ∨ (max : Int) < parsed) error
    .ok parsed.toNat
  | none => .error error

theorem requireInteger_ok {value : Val} {fieldName : String} {min max n : Nat}
    (h : requireInteger value fieldName min max = .ok n) : min ≤ n ∧ n ≤ max := by
  unfold requireInteger at h
  split at h
  · simp only [bind_eq_ok, rejectIf_eq_ok, not_or] at h
    obtain ⟨-, ⟨hmin, hmax⟩, h⟩ := h
    cases h
    omega
  · cases h

/-! ## Sort keys and cursors -/

/-- `typeof value === "string" ? value : ""`. -/
def stringOr : Val → String
  | .str s => s
  | _ => ""

def candidateSortKey (candidate : Val) : Except Val String := do
  let stableRef ← requireString (candidate.member "stableRef") "candidate.stableRef" 1 512
  .ok ("\x00".intercalate [stableRef, stringOr (candidate.member "candidateType"),
    stringOr (candidate.member "displayLabel")])

/-- What the cursor takes from `Buffer`: `encode s` is
`Buffer.from(s, "utf8").toString("base64url")`, and `decode v` is
`Buffer.from(v, "base64url").toString("utf8")`, `none` where it throws. -/
structure Base64Url where
  encode : String → String
  decode : Val → Option String

variable (buffer : Base64Url) (localeLe : String → String → Bool)

/-- Decoding undoes encoding, and only the empty text is encoded as an empty
one. -/
structure Base64Url.Faithful : Prop where
  decode_encode : ∀ s, buffer.decode (.str (buffer.encode s)) = some s
  encode_ne : ∀ s, s ≠ "" → buffer.encode s ≠ ""

def cursorPayload (sortKey : String) : Val :=
  .obj [("version", .num (.ofNat 1)), ("sortKey", .str sortKey)]

def encodeCursor (sortKey : String) : String :=
  buffer.encode ((jsonStringify (cursorPayload sortKey)).getD "")

def invalidCursor : Val :=
  contextApiValidationError "candidateCursor is invalid."
    [fieldIssue "candidateCursor" "invalid or unsupported cursor"]

/-- The sort key of a parsed cursor of version 1. -/
def payloadKey (parsed : Val) : Option String :=
  match parsed.member "version", parsed.member "sortKey" with
  | .num version, .str sortKey =>
    if version = .ofNat 1 ∧ sortKey ≠ "" then some sortKey else none
  | _, _ => none

def decodeCursor (cursor : Val) : Except Val (Option String) :=
  if cursor.truthy = false then .ok none
  else
    match ((buffer.decode cursor).bind jsonParse).bind payloadKey with
    | some sortKey => .ok (some sortKey)
    | none => .error invalidCursor

/-! ## One page -/

def keyedCandidate (candidate : Val) : Except Val (String × Val) := do
  let sortKey ← candidateSortKey candidate
  .ok (sortKey, candidate)

/-- `candidates.sort(...)`.  Entries that are `undefined` go to the end and are
not compared; a single candidate is not compared either, so its key is not
read. -/
def sortCandidates (candidates : List Val) : Except Val (List Val) :=
  let present := candidates.filter fun candidate => !candidate.isUndefined
  let absent := candidates.filter fun candidate => candidate.isUndefined
  if present.length < 2 then .ok (present ++ absent)
  else do
    let keyed ← present.mapM keyedCandidate
    .ok ((keyed.insertionSort fun a b => localeLe a.1 b.1 = true).map Prod.snd ++ absent)

/-- `sorted.findIndex((candidate) => candidateSortKey(candidate) === cursorKey)`. -/
def findKey (cursorKey : String) : List Val → Except Val (Option Nat)
  | [] => .ok none
  | candidate :: rest => do
    let sortKey ← candidateSortKey candidate
    if sortKey = cursorKey then .ok (some 0)
    else do
      let found ← findKey cursorKey rest
      .ok (found.map (· + 1))

def staleCursor : Val :=
  contextApiValidationError "candidateCursor is stale or outside the authorized candidate set."
    [fieldIssue "candidateCursor" "cursor does not reference the current authorized candidate set"]

/-- The position of the first candidate of the page. -/
def pageStart (sorted : List Val) : Option String → Except Val Nat
  | none => .ok 0
  | some cursorKey => do
    let found ← findKey cursorKey sorted
    match found with
    | some index => .ok (index + 1)
    | none => .error staleCursor

structure CandidatePage where
  items : List Val
  limit : Nat
  hasMore : Bool
  nextCursor : Val

/-- The cursor behind the items of a page that is not the last one. -/
def cursorAfter (hasMore : Bool) (items : List Val) : Except Val Val :=
  match hasMore, items.getLast? with
  | true, some candidate => do
    let sortKey ← candidateSortKey candidate
    .ok (.str (encodeCursor buffer sortKey))
  | _, _ => .ok .null

def candidateList : Val → List Val
  | .arr candidates => candidates
  | _ => []

def paginateCandidates (candidates limit cursor : Val) : Except Val CandidatePage := do
  let pageLimit ← requireInteger
    (if limit.isUndefined then .num (.ofNat 25) else limit) "candidateLimit" 1 100
  let sorted ← sortCandidates localeLe (candidateList candidates)
  let cursorKey ← decodeCursor buffer cursor
  let start ← pageStart sorted cursorKey
  let items := (sorted.drop start).take pageLimit
  let hasMore := decide (start + items.length < sorted.length)
  let nextCursor ← cursorAfter buffer hasMore items
  .ok { items, limit := pageLimit, hasMore, nextCursor }

/-- The pages a client gets that starts with `cursor` and follows `nextCursor`
while `hasMore`. -/
inductive Pages (buffer : Base64Url) (localeLe : String → String → Bool)
    (candidates limit : Val) : Val → List (List Val) → Prop
  | last {cursor : Val} {page : CandidatePage}
      (h : paginateCandidates buffer localeLe candidates limit cursor = .ok page)
      (hmore : page.hasMore = false) :
      Pages buffer localeLe candidates limit cursor [page.items]
  | more {cursor : Val} {page : CandidatePage} {pages : List (List Val)}
      (h : paginateCandidates buffer localeLe candidates limit cursor = .ok page)
      (hmore : page.hasMore = true)
      (rest : Pages buffer localeLe candidates limit page.nextCursor pages) :
      Pages buffer localeLe candidates limit cursor (page.items :: pages)

/-! ## Cursors read back -/

variable {sortKey : String}

theorem payloadKey_cursorPayload (h : sortKey ≠ "") :
    payloadKey (cursorPayload sortKey) = some sortKey := by
  simp [payloadKey, cursorPayload, Val.member, Val.lookup, h]

theorem writable_cursorPayload (sortKey : String) : JsonText.Writable (cursorPayload sortKey) := by
  refine ⟨by simp, readsBack_one, by simp, trivial, trivial⟩

/-- A cursor holds the key it was made of. -/
theorem decodeCursor_encodeCursor {buffer : Base64Url} (hbuffer : buffer.Faithful)
    (h : sortKey ≠ "") :
    decodeCursor buffer (.str (encodeCursor buffer sortKey)) = .ok (some sortKey) := by
  obtain ⟨text, htext, hread⟩ :=
    jsonParse_jsonStringify (writable_cursorPayload sortKey)
  have htext' : text ≠ "" := by
    rintro rfl
    cases hread
  have hcursor : encodeCursor buffer sortKey = buffer.encode text := by
    simp [encodeCursor, htext]
  have htruthy : (Val.str (buffer.encode text)).truthy = true := by
    simpa [Val.truthy] using hbuffer.encode_ne text htext'
  simp [decodeCursor, hcursor, htruthy, hbuffer.decode_encode, hread, payloadKey_cursorPayload h]

/-- The two separators make every key a text. -/
theorem candidateSortKey_ne {candidate : Val} (h : candidateSortKey candidate = .ok sortKey) :
    sortKey ≠ "" := by
  simp only [candidateSortKey, bind_eq_ok] at h
  obtain ⟨stableRef, -, h⟩ := h
  cases h
  intro hempty
  have := congrArg String.toList hempty
  simp [String.intercalate_cons_cons] at this

/-! ## The calls as a walk through the sorted list -/

/-- The key of a candidate that has one. -/
def sortKeyOf (candidate : Val) : String :=
  match candidateSortKey candidate with
  | .ok sortKey => sortKey
  | .error _ => ""

/-- The candidates in the order of their keys. -/
def candidateOrder (candidates : List Val) : List Val :=
  candidates.insertionSort fun a b => localeLe (sortKeyOf a) (sortKeyOf b) = true

def ValidRefs (candidates : List Val) : Prop :=
  ∀ candidate ∈ candidates, ∃ sortKey, candidateSortKey candidate = .ok sortKey

variable {candidates : List Val}

theorem candidateSortKey_of_valid (hvalid : ValidRefs candidates) {candidate : Val}
    (h : candidate ∈ candidates) : candidateSortKey candidate = .ok (sortKeyOf candidate) := by
  obtain ⟨sortKey, hkey⟩ := hvalid candidate h
  simp [sortKeyOf, hkey]

variable {localeLe} {x : Val}

theorem mem_candidateOrder {candidate : Val} :
    candidate ∈ candidateOrder localeLe candidates ↔ candidate ∈ candidates :=
  (perm_insertionSort _ candidates).mem_iff

theorem ValidRefs.candidateOrder (hvalid : ValidRefs candidates) :
    ValidRefs (candidateOrder localeLe candidates) := by
  intro candidate h
  exact hvalid candidate (mem_candidateOrder.mp h)

theorem ValidRefs.isUndefined (hvalid : ValidRefs candidates) {candidate : Val}
    (h : candidate ∈ candidates) : candidate.isUndefined = false := by
  obtain ⟨sortKey, hkey⟩ := hvalid candidate h
  cases candidate with
  | undefined => cases hkey
  | _ => rfl

theorem sortCandidates_of_valid (localeLe : String → String → Bool)
    (hvalid : ValidRefs candidates) :
    sortCandidates localeLe candidates = .ok (candidateOrder localeLe candidates) := by
  have hpresent : candidates.filter (fun candidate => !candidate.isUndefined) =
      candidates := by
    apply filter_eq_self.mpr
    intro candidate h
    rw [hvalid.isUndefined h]
    rfl
  have habsent : candidates.filter (fun candidate => candidate.isUndefined) = [] := by
    apply filter_eq_nil_iff.mpr
    intro candidate h
    rw [hvalid.isUndefined h]
    exact Bool.false_ne_true
  have hkeyed : candidates.mapM keyedCandidate =
      .ok (candidates.map fun candidate => (sortKeyOf candidate, candidate)) := by
    apply mapM_eq_ok.mpr
    rw [forall₂_map_right_iff, forall₂_same]
    intro candidate h
    simp only [keyedCandidate, candidateSortKey_of_valid hvalid h, ok_bind]
  unfold sortCandidates
  simp only [hpresent, habsent, append_nil]
  split
  · next hshort =>
      match candidates, hshort with
      | [], _ => rfl
      | [candidate], _ => rfl
  · rw [hkeyed, ok_bind, ← map_insertionSort
      (fun a b => localeLe (sortKeyOf a) (sortKeyOf b) = true) _ _ _
      (fun _ _ _ _ => Iff.rfl), map_map]
    exact congrArg Except.ok (map_id _)

/-- A key that occurs is found at its first place. -/
theorem findKey_of_valid (hvalid : ValidRefs candidates) (hx : x ∈ candidates) :
    findKey (sortKeyOf x) candidates = .ok (some
      (candidates.findIdx fun y => decide (sortKeyOf y = sortKeyOf x))) := by
  induction candidates with
  | nil => cases hx
  | cons candidate rest ih =>
    have hkey := candidateSortKey_of_valid hvalid mem_cons_self
    have hrest : ValidRefs rest := fun c h => hvalid c (mem_cons_of_mem _ h)
    by_cases hsame : sortKeyOf candidate = sortKeyOf x
    · simp [findKey, hkey, ok_bind, hsame, findIdx_cons]
    · have hx' : x ∈ rest := by
        rcases mem_cons.mp hx with rfl | hx
        · exact absurd rfl hsame
        · exact hx
      simp [findKey, hkey, ok_bind, hsame, findIdx_cons, ih hrest hx']

section Walk

variable {buffer} {limit : Val} {n : Nat}

/-- A cursor that sends the next call to position `start` of the sorted list. -/
def Resumes (buffer : Base64Url) (sorted : List Val) (cursor : Val) (start : Nat) : Prop :=
  (decodeCursor buffer cursor >>= pageStart sorted) = .ok start

theorem resumes_null (sorted : List Val) : Resumes buffer sorted .null 0 :=
  rfl

theorem resumes_encodeCursor (hbuffer : buffer.Faithful) {sorted : List Val}
    (hvalid : ValidRefs sorted) (hx : x ∈ sorted) :
    Resumes buffer sorted (.str (encodeCursor buffer (sortKeyOf x)))
      (KeysetPaging.resume sortKeyOf sorted x) := by
  have hne := candidateSortKey_ne (candidateSortKey_of_valid hvalid hx)
  simp [Resumes, decodeCursor_encodeCursor hbuffer hne, ok_bind, pageStart,
    findKey_of_valid hvalid hx, KeysetPaging.resume]

variable (hvalid : ValidRefs candidates)
  (hlimit : requireInteger (if limit.isUndefined then .num (.ofNat 25) else limit)
    "candidateLimit" 1 100 = .ok n)

include hvalid hlimit

variable {cursor : Val} {start : Nat}

section

variable (hcursor : Resumes buffer (candidateOrder localeLe candidates) cursor start)

include hcursor

theorem paginateCandidates_at :
    paginateCandidates buffer localeLe (.arr candidates) limit cursor = (do
      let items := ((candidateOrder localeLe candidates).drop start).take n
      let hasMore := decide (start + items.length < (candidateOrder localeLe candidates).length)
      let nextCursor ← cursorAfter buffer hasMore items
      .ok { items, limit := n, hasMore, nextCursor }) := by
  obtain ⟨cursorKey, hdecode, hstart⟩ := bind_eq_ok.mp hcursor
  simp only [paginateCandidates, candidateList, hlimit,
    sortCandidates_of_valid localeLe hvalid, hdecode, hstart, ok_bind]

theorem paginateCandidates_last
    (hend : (candidateOrder localeLe candidates).length ≤ start + n) :
    paginateCandidates buffer localeLe (.arr candidates) limit cursor = .ok
      { items := ((candidateOrder localeLe candidates).drop start).take n
        limit := n
        hasMore := false
        nextCursor := .null } := by
  have hmore : decide (start + (((candidateOrder localeLe candidates).drop start).take
      n).length < (candidateOrder localeLe candidates).length) = false := by
    rw [KeysetPaging.length_page]
    apply decide_eq_false
    omega
  rw [paginateCandidates_at hvalid hlimit hcursor]
  simp only [hmore, cursorAfter, ok_bind]

/-- A page with more to come hands out the key of its last candidate. -/
theorem paginateCandidates_more
    (hx : (candidateOrder localeLe candidates)[start + n - 1]? = some x)
    (hend : start + n < (candidateOrder localeLe candidates).length) :
    paginateCandidates buffer localeLe (.arr candidates) limit cursor = .ok
      { items := ((candidateOrder localeLe candidates).drop start).take n
        limit := n
        hasMore := true
        nextCursor := .str (encodeCursor buffer (sortKeyOf x)) } := by
  have hpos := (requireInteger_ok hlimit).1
  have hmem : x ∈ candidates := mem_candidateOrder.mp (mem_of_getElem? hx)
  have hmore : decide (start + (((candidateOrder localeLe candidates).drop start).take
      n).length < (candidateOrder localeLe candidates).length) = true := by
    rw [KeysetPaging.length_page]
    apply decide_eq_true
    omega
  have hlast : (((candidateOrder localeLe candidates).drop start).take n).getLast? =
      some x := by
    rw [List.getLast?_eq_getElem?, KeysetPaging.length_page, List.getElem?_take, List.getElem?_drop]
    have hmin : min n ((candidateOrder localeLe candidates).length - start) = n := by
      omega
    rw [hmin, if_pos (by omega), ← hx]
    congr 1
    omega
  rw [paginateCandidates_at hvalid hlimit hcursor]
  simp only [hmore, cursorAfter, hlast, candidateSortKey_of_valid hvalid hmem, ok_bind]

/-- Following the cursors walks through the sorted list. -/
theorem pages_iff_walk (hbuffer : buffer.Faithful) {pages : List (List Val)} :
    Pages buffer localeLe (.arr candidates) limit cursor pages ↔
      KeysetPaging.Walk sortKeyOf (candidateOrder localeLe candidates) n start pages := by
  have hfound : ∀ start, ¬(candidateOrder localeLe candidates).length ≤ start + n →
      ∃ x, (candidateOrder localeLe candidates)[start + n - 1]? = some x := by
    intro start hend
    exact ⟨_, List.getElem?_eq_getElem (by omega)⟩
  constructor
  · intro h
    induction h generalizing start with
    | last hpage hmore =>
      by_cases hend : (candidateOrder localeLe candidates).length ≤ start + n
      · rw [paginateCandidates_last hvalid hlimit hcursor hend] at hpage
        cases hpage
        exact .last hend
      · obtain ⟨x, hx⟩ := hfound start hend
        rw [paginateCandidates_more hvalid hlimit hcursor hx (Nat.lt_of_not_le hend)]
          at hpage
        cases hpage
        cases hmore
    | more hpage hmore _ ih =>
      by_cases hend : (candidateOrder localeLe candidates).length ≤ start + n
      · rw [paginateCandidates_last hvalid hlimit hcursor hend] at hpage
        cases hpage
        cases hmore
      · obtain ⟨x, hx⟩ := hfound start hend
        rw [paginateCandidates_more hvalid hlimit hcursor hx (Nat.lt_of_not_le hend)]
          at hpage
        cases hpage
        have hnext := resumes_encodeCursor hbuffer hvalid.candidateOrder (mem_of_getElem? hx)
        exact .more hx (Nat.lt_of_not_le hend) (ih hnext)
  · intro h
    induction h generalizing cursor with
    | last hend => exact .last (paginateCandidates_last hvalid hlimit hcursor hend) rfl
    | more hx hend _ ih =>
      have hnext := resumes_encodeCursor hbuffer hvalid.candidateOrder (mem_of_getElem? hx)
      exact .more (paginateCandidates_more hvalid hlimit hcursor hx hend) rfl (ih hnext)

end

end Walk

/-- Following the cursors ends, and delivers every candidate as often as the
list holds it, exactly when no page before the last one ends, in the order of
the sort, behind the first candidate with its key. -/
theorem pagination_exact_iff (buffer : Base64Url) (hbuffer : buffer.Faithful)
    (localeLe : String → String → Bool) (candidates : List Val)
    (hvalid : ValidRefs candidates) (limit : Val) (n : Nat)
    (hlimit : requireInteger (if limit.isUndefined then .num (.ofNat 25) else limit)
      "candidateLimit" 1 100 = .ok n) :
    (∃ pages, Pages buffer localeLe (.arr candidates) limit .null pages ∧
        pages.flatten.Perm candidates) ↔
      ∀ j, (j + 1) * n < candidates.length →
        KeysetPaging.EndsFresh sortKeyOf (candidateOrder localeLe candidates) ((j + 1) * n) := by
  have hpos := (requireInteger_ok hlimit).1
  have hperm : (candidateOrder localeLe candidates).Perm candidates :=
    perm_insertionSort _ candidates
  have hexact := KeysetPaging.walk_exact_iff sortKeyOf (candidateOrder localeLe candidates) hpos
  rw [hperm.length_eq] at hexact
  rw [← hexact]
  constructor
  · rintro ⟨pages, hpages, hflat⟩
    exact ⟨pages, (pages_iff_walk hvalid hlimit (resumes_null _) hbuffer).mp hpages,
      hflat.trans hperm.symm⟩
  · rintro ⟨pages, hwalk, hflat⟩
    exact ⟨pages, (pages_iff_walk hvalid hlimit (resumes_null _) hbuffer).mpr hwalk,
      hflat.trans hperm⟩

/-! ## Two lists -/

/-- A cursor that is its own encoding. -/
def plainBuffer : Base64Url where
  encode s := s
  decode v := match v with
    | .str s => some s
    | _ => none

theorem plainBuffer_faithful : plainBuffer.Faithful :=
  ⟨fun _ => rfl, fun _ h => h⟩

def candidate (stableRef : String) : Val :=
  .obj [("stableRef", .str stableRef)]

theorem validRefs_ab (h : ∀ c ∈ candidates, c = candidate "a" ∨ c = candidate "b") :
    ValidRefs candidates := by
  intro c hc
  rcases h c hc with rfl | rfl
  · exact ⟨"a\x00\x00", rfl⟩
  · exact ⟨"b\x00\x00", rfl⟩

/-- Three candidates in pages of two; the two equal keys lie behind the end of
the first page. -/
theorem pagination_exact_iff_three :
    ValidRefs [candidate "b", candidate "a", candidate "b"] ∧ ∃ pages, Pages plainBuffer keyLe
          (.arr [candidate "b", candidate "a", candidate "b"]) (.num (.ofNat 2)) .null
          pages ∧
        pages.flatten.Perm [candidate "b", candidate "a", candidate "b"] := by
  have hvalid : ValidRefs [candidate "b", candidate "a", candidate "b"] :=
    validRefs_ab (by simp)
  refine ⟨hvalid, (pagination_exact_iff plainBuffer plainBuffer_faithful keyLe _ hvalid
    (.num (.ofNat 2)) 2 rfl).mpr ?_⟩
  intro j hj
  obtain rfl : j = 0 := by
    simp only [length_cons, length_nil] at hj
    omega
  intro x hx y hy
  obtain rfl : candidate "b" = x := Option.some.inj hx
  obtain rfl : y = candidate "a" := mem_singleton.mp hy
  decide

/-- Three candidates with one key, in pages of one: behind the second page the
cursor leads to the second page again, without end. -/
theorem equal_keys_never_end :
    ¬∃ pages, Pages plainBuffer keyLe
      (.arr [candidate "a", candidate "a", candidate "a"]) (.num (.ofNat 1)) .null
      pages := by
  rintro ⟨pages, hpages⟩
  have hvalid : ValidRefs [candidate "a", candidate "a", candidate "a"] :=
    validRefs_ab (by simp)
  have hwalk := (pages_iff_walk hvalid rfl (resumes_null _) plainBuffer_faithful).mp hpages
  -- every call starts at one of the first two positions
  have hnever : ∀ start pages, KeysetPaging.Walk sortKeyOf
      [candidate "a", candidate "a", candidate "a"] 1 start pages → ¬start ≤ 1 := by
    intro start pages h
    induction h with
    | last hend =>
      simp only [length_cons, length_nil] at hend
      omega
    | more hx _ _ ih =>
      have hx' := mem_of_getElem? hx
      obtain rfl := eq_of_mem_replicate (n := 3) hx'
      exact absurd (by decide) ih
  exact hnever 0 pages hwalk (by omega)

end GrowthOs.ContextKernel
