import EpochGuard.DecisionParser
import EpochGuard.Lib.JsonParse
import Mathlib

/-!
# Written decisions

An Agent writes its decision as the canonical text of an envelope between the
two markers. With any white space around its parts, the parser reads that text back
exactly if it is short enough and the text of the envelope holds no marker.
-/

namespace EpochGuard

open Json Checked

namespace DecisionParser

/-! ## The fields of an envelope -/

theorem asciiChars?_of_ascii {cs : List Char} (h : ∀ c ∈ cs, c.toNat < 0x80) :
    asciiChars? (cs.flatMap charUnits) = some cs := by
  have hunits : cs.flatMap charUnits = cs.map fun c => c.toNat.toUInt16 := by
    induction cs with
    | nil => rfl
    | cons c cs ih =>
      have hc : c.toNat < 0x10000 := by
        have := h c List.mem_cons_self
        omega
      rw [List.flatMap_cons, List.map_cons, ih fun d hd => h d (List.mem_cons_of_mem _ hd),
        charUnits, if_pos hc]
      rfl
  have hall : (cs.map fun c => c.toNat.toUInt16).all (· < 0x80) = true := by
    simp only [List.all_map, List.all_eq_true, Function.comp_apply, decide_eq_true_eq]
    intro c hc
    have := h c hc
    rw [UInt16.lt_iff_toNat_lt]
    simp
    omega
  have hback : (cs.map fun c => c.toNat.toUInt16).map (fun u => Char.ofNat u.toNat) = cs := by
    have hchar : ∀ c ∈ cs, Char.ofNat c.toNat.toUInt16.toNat = c := by
      intro c hc
      have hsmall := h c hc
      have hnat : c.toNat.toUInt16.toNat = c.toNat := by
        simp
        omega
      rw [hnat, Char.ofNat_toNat]
    rw [List.map_map]
    calc cs.map _ = cs.map id := List.map_congr_left hchar
      _ = cs := List.map_id cs
  rw [hunits, asciiChars?, if_pos hall, hback]

theorem isDigit_ascii {c : Char} (h : c.isDigit = true) : c.toNat < 0x80 := by
  simp only [Char.isDigit, Bool.and_eq_true, decide_eq_true_eq, UInt32.le_iff_toNat_le] at h
  have htop : c.toNat ≤ 57 := h.2
  omega

theorem isAlphanum_ascii {c : Char} (h : c.isAlphanum = true) : c.toNat < 0x80 := by
  simp only [Char.isAlphanum, Char.isAlpha, Char.isUpper, Char.isLower, Bool.or_eq_true,
    Bool.and_eq_true, decide_eq_true_eq, UInt32.le_iff_toNat_le] at h
  rcases h with (⟨-, hupper⟩ | ⟨-, hlower⟩) | hdigit
  · have htop : c.toNat ≤ 90 := hupper
    omega
  · have htop : c.toNat ≤ 122 := hlower
    omega
  · exact isDigit_ascii hdigit

theorem isIdChar_ascii {c : Char} (h : isIdChar c = true) : c.toNat < 0x80 := by
  simp only [isIdChar, Bool.or_eq_true, beq_iff_eq] at h
  rcases h with (((halphanum | rfl) | rfl) | rfl) | rfl
  · exact isAlphanum_ascii halphanum
  all_goals decide

theorem isHexDigit_ascii {c : Char} (h : isHexDigit c = true) : c.toNat < 0x80 := by
  simp only [isHexDigit, Bool.or_eq_true, Bool.and_eq_true, decide_eq_true_eq] at h
  rcases h with hdigit | ⟨-, hletter⟩
  · exact isDigit_ascii hdigit
  · have htop : c.toNat ≤ 102 := hletter
    omega

theorem opaqueId?_jstr (id : OpaqueId) : opaqueId? (jstr id.val) = some id := by
  have hok : isOpaqueIdText id.val.toList = true := id.ok
  have hascii : ∀ c ∈ id.val.toList, c.toNat < 0x80 := by
    intro c hc
    cases hchars : id.val.toList with
    | nil => simp [hchars] at hc
    | cons d ds =>
      rw [hchars] at hc hok
      simp only [isOpaqueIdText, Bool.and_eq_true, List.all_eq_true] at hok
      rcases List.mem_cons.mp hc with rfl | hrest
      · exact isAlphanum_ascii hok.1.1
      · exact isIdChar_ascii (hok.1.2 c hrest)
  rw [jstr, opaqueId?, js_eq_flatMap, asciiChars?_of_ascii hascii, Option.bind_some,
    OpaqueId.ofChars?, dif_pos hok]
  simp

theorem digest?_jdigest (digest : Sha256Digest) : digest? (jdigest digest) = some digest := by
  have hascii : ∀ c ∈ digest.chars, c.toNat < 0x80 := by
    intro c hc
    rcases List.mem_append.mp hc with hlabel | hhex
    · have hall : ("sha256:".toList.all fun d => d.toNat < 0x80) = true := by decide
      exact of_decide_eq_true (List.all_eq_true.mp hall c hlabel)
    · exact isHexDigit_ascii (List.all_eq_true.mp digest.ok.2 c hhex)
  have hhex : digest.chars.drop 7 = digest.hex := rfl
  have hlabel : digest.chars.take 7 = "sha256:".toList := rfl
  simp only [jdigest, digest?, asciiChars?_of_ascii hascii, Option.bind_eq_bind,
    Option.bind_some, hhex, hlabel, dif_pos digest.ok, if_true]

theorem named?_role (role : Role) : named? ROLES Role.name (jstr role.name) = some role := by
  cases role <;> decide

theorem named?_verdict (verdict : Verdict) :
    named? [.ALLOW, .DENY] Verdict.name (jstr verdict.name) = some verdict := by
  cases verdict <;> decide

theorem text?_str {shortest longest : Nat} {s : JsString}
    (h : shortest ≤ s.length ∧ s.length ≤ longest) :
    text? shortest longest (.str s) = some s := by
  simp [text?, h]

/-! ## The envelope as an object -/

/-- A property of an object whose keys differ. -/
theorem find?_key {entries : List (JsString × Value)} (hkeys : (entries.map Prod.fst).Nodup)
    {key : JsString} {v : Value} (hmem : (key, v) ∈ entries) :
    (entries.find? fun e => e.1 = key).map Prod.snd = some v := by
  obtain ⟨e, he⟩ : ∃ e, entries.find? (fun e => e.1 = key) = some e := by
    rw [← Option.isSome_iff_exists, List.find?_isSome]
    exact ⟨(key, v), hmem, by simp⟩
  have hkey : e.1 = key := by simpa using List.find?_some he
  have heq : e = (key, v) :=
    List.inj_on_of_nodup_map hkeys (List.mem_of_find?_eq_some he) hmem hkey
  rw [he, heq]
  rfl

/-- The order of the properties does not matter. -/
theorem parseEnvelope_of_perm {envelope : AgentDecisionEnvelope}
    {written entries : List (JsString × Value)} (hwritten : envelopeJson envelope = .obj written)
    (hperm : entries.Perm written)
    (hnonce : 32 ≤ envelope.nonce.length ∧ envelope.nonce.length ≤ 512)
    (hreason : 1 ≤ envelope.reason.length ∧ envelope.reason.length ≤ 1000) :
    parseEnvelope (.obj entries) = some envelope := by
  cases hwritten
  have hwrittenKeys : (envelopeKeys.map js).Nodup := by decide
  have hkeys : (entries.map Prod.fst).Nodup := (hperm.map Prod.fst).nodup_iff.mpr hwrittenKeys
  have hfield : ∀ key v, (js key, v) ∈ entries →
      (entries.find? fun e => e.1 = js key).map Prod.snd = some v :=
    fun key v hmem => find?_key hkeys hmem
  have hversion := hfield "schemaVersion" (jnat 1) (hperm.mem_iff.mpr (by simp))
  have hsession := hfield "sessionId" (jstr envelope.sessionId.val) (hperm.mem_iff.mpr (by simp))
  have haction := hfield "actionHash" (jdigest envelope.actionHash)
    (hperm.mem_iff.mpr (by simp))
  have hassignment := hfield "runAssignmentId" (jstr envelope.runAssignmentId.val)
    (hperm.mem_iff.mpr (by simp))
  have hrole := hfield "role" (jstr envelope.role.name) (hperm.mem_iff.mpr (by simp))
  have hreceipt := hfield "receiptId" (jstr envelope.receiptId.val) (hperm.mem_iff.mpr (by simp))
  have hnonceField := hfield "nonce" (.str envelope.nonce) (hperm.mem_iff.mpr (by simp))
  have hverdict := hfield "verdict" (jstr envelope.verdict.name) (hperm.mem_iff.mpr (by simp))
  have hreasonField := hfield "reason" (.str envelope.reason) (hperm.mem_iff.mpr (by simp))
  have hall : (entries.all fun e =>
      e.1 = protoKey || envelopeKeys.any fun key => e.1 = js key) = true := by
    rw [List.all_eq_true]
    intro e he
    have hkey : e.1 ∈ envelopeKeys.map js :=
      (hperm.map Prod.fst).mem_iff.mp (List.mem_map_of_mem he)
    obtain ⟨key, hmem, heq⟩ := List.mem_map.mp hkey
    exact (Bool.or_eq_true ..).mpr (.inr (List.any_eq_true.mpr ⟨key, hmem, by simp [heq]⟩))
  have hone : (natNumber 1).numeral = ['1'] := by decide
  simp only [parseEnvelope, hversion, hsession, haction, hassignment, hrole, hreceipt, hnonceField,
    hverdict, hreasonField, opaqueId?_jstr, digest?_jdigest, named?_role, named?_verdict,
    text?_str hnonce, text?_str hreason, hall, jnat, hone, Option.bind_eq_bind, Option.bind_some]
  rfl

/-! ## The text around it -/

/-- White space around a text that neither starts nor ends with some. -/
theorem trim_padded {before body after : JsString} (hbefore : before.all isTrimmed = true)
    (hafter : after.all isTrimmed = true) (hhead : ∀ u ∈ body.head?, isTrimmed u = false)
    (hlast : ∀ u ∈ body.getLast?, isTrimmed u = false) (hbody : body ≠ []) :
    trim (before ++ body ++ after) = body := by
  have hdrop : ∀ l : JsString, l ≠ [] → (∀ u ∈ l.head?, isTrimmed u = false) →
      ∀ spaces : JsString, (∀ u ∈ spaces, isTrimmed u = true) → ∀ rest : JsString,
        (spaces ++ (l ++ rest)).dropWhile isTrimmed = l ++ rest := by
    intro l hne hl spaces hspaces rest
    rw [List.dropWhile_append_of_pos hspaces]
    cases l with
    | nil => exact absurd rfl hne
    | cons u l =>
      rw [List.cons_append, List.dropWhile_cons_of_neg]
      simp [hl u rfl]
  have hfront : (before ++ body ++ after).dropWhile isTrimmed = body ++ after := by
    rw [List.append_assoc]
    exact hdrop body hbody hhead before (List.all_eq_true.mp hbefore) after
  have hback : (body ++ after).rdropWhile isTrimmed = body := by
    rw [List.rdropWhile, List.reverse_append]
    have hreversed := hdrop body.reverse (by simpa using hbody) (by simpa using hlast)
      after.reverse (fun u hu => List.all_eq_true.mp hafter u (List.mem_reverse.mp hu)) []
    rw [List.append_nil] at hreversed
    rw [hreversed, List.reverse_reverse]
  rw [trim, hfront, hback]

theorem betweenMarkers_marked (text : JsString) :
    betweenMarkers (EPOCH_DECISION_OPEN_MARKER ++ text ++ EPOCH_DECISION_CLOSE_MARKER) = text := by
  unfold betweenMarkers
  rw [List.append_assoc, List.drop_left']
  · have hlength : (EPOCH_DECISION_OPEN_MARKER ++ (text ++ EPOCH_DECISION_CLOSE_MARKER)).length -
        EPOCH_DECISION_CLOSE_MARKER.length - EPOCH_DECISION_OPEN_MARKER.length = text.length := by
      simp only [List.length_append]
      omega
    rw [hlength, List.take_left']
    rfl
  · rfl

/-- The text of an object stands in braces. -/
theorem canonicalJson_braces (entries : List (JsString × Value)) :
    ∃ text, canonicalJson (.obj entries) = [0x7B] ++ text ++ [0x7D] :=
  ⟨joinComma (((canonicalEntries entries).insertionSort leKey).map Prod.snd), by
    rw [canonicalJson]
    rfl⟩

theorem trim_canonicalJson {entries : List (JsString × Value)} {before after : JsString}
    (hbefore : before.all isTrimmed = true) (hafter : after.all isTrimmed = true) :
    trim (before ++ canonicalJson (.obj entries) ++ after) = canonicalJson (.obj entries) := by
  obtain ⟨text, hbraces⟩ := canonicalJson_braces entries
  apply trim_padded hbefore hafter
  · rw [hbraces]
    intro u hu
    obtain rfl := Option.some.inj hu
    decide
  · rw [hbraces, List.getLast?_concat]
    intro u hu
    obtain rfl := Option.some.inj hu
    decide
  · rw [hbraces]
    simp

/-- A unit that the literal does not have separates its occurrences. -/
theorem countLiteralFrom_append {literal : JsString} (hne : literal ≠ []) {u : UInt16}
    (hu : u ∉ literal) (b : JsString) :
    ∀ (a : JsString) (skip : Nat), skip ≤ a.length →
      countLiteralFrom literal skip (a ++ u :: b) =
        countLiteralFrom literal skip a + countLiteralFrom literal 0 b := by
  intro a
  induction a with
  | nil =>
    intro skip hskip
    obtain rfl : skip = 0 := Nat.le_zero.mp hskip
    have hmiss : literal.isPrefixOf (u :: b) = false := by
      cases literal with
      | nil => exact absurd rfl hne
      | cons v rest =>
        have hvu : v ≠ u := fun heq => hu (heq ▸ List.mem_cons_self)
        simp [List.isPrefixOf, hvu]
    simp [countLiteralFrom, hmiss]
  | cons x a ih =>
    intro skip hskip
    cases skip with
    | succ skip => exact ih skip (Nat.le_of_succ_le_succ hskip)
    | zero =>
      have hwithin : literal.isPrefixOf (x :: (a ++ u :: b)) = literal.isPrefixOf (x :: a) := by
        rw [Bool.eq_iff_iff, List.isPrefixOf_iff_prefix, List.isPrefixOf_iff_prefix]
        constructor
        · intro h
          -- an occurrence that is longer has the separator
          rcases List.prefix_or_prefix_of_prefix h (List.prefix_append (x :: a) (u :: b)) with
            hin | hover
          · exact hin
          · obtain ⟨rest, rfl⟩ := hover
            have hrest := (List.prefix_append_right_inj (x :: a)).mp h
            cases rest with
            | nil => simp
            | cons w rest =>
              obtain rfl := (List.cons_prefix_cons.mp hrest).1
              exact absurd (List.mem_append_right (x :: a) List.mem_cons_self) hu
        · intro h
          exact h.trans (List.prefix_append (x :: a) (u :: b))
      rw [List.cons_append, countLiteralFrom, countLiteralFrom, hwithin]
      by_cases hmatch : literal.isPrefixOf (x :: a) = true
      · have hlength := (List.isPrefixOf_iff_prefix.mp hmatch).length_le
        rw [List.length_cons] at hlength
        rw [if_pos hmatch, if_pos hmatch, ih (literal.length - 1) (by omega), Nat.add_assoc]
      · rw [if_neg hmatch, if_neg hmatch]
        exact ih 0 (Nat.zero_le _)

theorem countLiteral_append {literal : JsString} (hne : literal ≠ []) {u : UInt16}
    (hu : u ∉ literal) (a b : JsString) :
    countLiteral (a ++ u :: b) literal = countLiteral a literal + countLiteral b literal :=
  countLiteralFrom_append hne hu b a 0 (Nat.zero_le _)

section Spaces

variable {literal : JsString} (hne : literal ≠ [])
  (hvisible : (literal.all fun u => !isTrimmed u) = true)

include hne hvisible

theorem countLiteral_spaces {spaces : JsString} (hspaces : spaces.all isTrimmed = true)
    (b : JsString) : countLiteral (spaces ++ b) literal = countLiteral b literal := by
  induction spaces with
  | nil => rfl
  | cons u spaces ih =>
    rw [List.all_cons, Bool.and_eq_true] at hspaces
    have hu : u ∉ literal := by
      intro hmem
      have hseen := List.all_eq_true.mp hvisible u hmem
      rw [hspaces.1] at hseen
      exact Bool.noConfusion hseen
    have hsplit := countLiteral_append hne hu [] (spaces ++ b)
    rw [List.nil_append] at hsplit
    rw [List.cons_append, hsplit, ih hspaces.2]
    exact Nat.zero_add _

theorem countLiteral_append_spaces {spaces : JsString} (hspaces : spaces.all isTrimmed = true)
    (a : JsString) : countLiteral (a ++ spaces) literal = countLiteral a literal := by
  cases spaces with
  | nil => rw [List.append_nil]
  | cons u spaces =>
    have hblank := hspaces
    rw [List.all_cons, Bool.and_eq_true] at hspaces
    have hu : u ∉ literal := by
      intro hmem
      have hseen := List.all_eq_true.mp hvisible u hmem
      rw [hspaces.1] at hseen
      exact Bool.noConfusion hseen
    have hrest := countLiteral_spaces hne hvisible hspaces.2 []
    rw [List.append_nil] at hrest
    rw [countLiteral_append hne hu, hrest]
    exact Nat.add_zero _

end Spaces

/-- An envelope between the markers, with white space around the three. -/
def writtenDecision (before opened closed after : JsString) (envelope : AgentDecisionEnvelope) :
    JsString :=
  before ++ (EPOCH_DECISION_OPEN_MARKER ++
    (opened ++ canonicalJson (envelopeJson envelope) ++ closed) ++
      EPOCH_DECISION_CLOSE_MARKER) ++ after

theorem trim_writtenDecision {before opened closed after : JsString}
    {envelope : AgentDecisionEnvelope} (hbefore : before.all isTrimmed = true)
    (hafter : after.all isTrimmed = true) :
    trim (writtenDecision before opened closed after envelope) = EPOCH_DECISION_OPEN_MARKER ++
      (opened ++ canonicalJson (envelopeJson envelope) ++ closed) ++
        EPOCH_DECISION_CLOSE_MARKER := by
  have hopen : EPOCH_DECISION_OPEN_MARKER =
      0x3C :: EPOCH_DECISION_OPEN_MARKER.tail := by decide
  have hclose : EPOCH_DECISION_CLOSE_MARKER =
      EPOCH_DECISION_CLOSE_MARKER.dropLast ++ [0x3E] := by decide
  apply trim_padded hbefore hafter
  · rw [hopen]
    intro u hu
    obtain rfl := Option.some.inj hu
    decide
  · rw [hclose, ← List.append_assoc, List.getLast?_concat]
    intro u hu
    obtain rfl := Option.some.inj hu
    decide
  · rw [hopen]
    simp

/-- The occurrences in a written decision are those in its three parts. -/
theorem countLiteral_writtenDecision {literal : JsString} (hne : literal ≠ [])
    (hvisible : (literal.all fun u => !isTrimmed u) = true)
    (hbraces : 0x7B ∉ literal ∧ 0x7D ∉ literal)
    {before opened closed after : JsString} (hbefore : before.all isTrimmed = true)
    (hopened : opened.all isTrimmed = true) (hclosed : closed.all isTrimmed = true)
    (hafter : after.all isTrimmed = true) (envelope : AgentDecisionEnvelope) :
    countLiteral (writtenDecision before opened closed after envelope) literal =
      countLiteral EPOCH_DECISION_OPEN_MARKER literal +
        countLiteral (canonicalJson (envelopeJson envelope)) literal +
          countLiteral EPOCH_DECISION_CLOSE_MARKER literal := by
  obtain ⟨text, htext⟩ : ∃ text, canonicalJson (envelopeJson envelope) =
      [0x7B] ++ text ++ [0x7D] := canonicalJson_braces _
  have hnone : countLiteral [] literal = 0 := rfl
  have hjson : countLiteral ([0x7B] ++ text ++ [0x7D]) literal = countLiteral text literal := by
    have hfront := countLiteral_append hne hbraces.1 [] (text ++ [0x7D])
    have hback := countLiteral_append hne hbraces.2 text []
    rw [List.nil_append] at hfront
    rw [List.append_assoc, List.singleton_append, hfront, hback, hnone]
    omega
  have hparts : writtenDecision before opened closed after envelope =
      before ++ ((EPOCH_DECISION_OPEN_MARKER ++ opened) ++
        0x7B :: (text ++ 0x7D :: (closed ++ (EPOCH_DECISION_CLOSE_MARKER ++ after)))) := by
    rw [writtenDecision, htext]
    simp only [List.append_assoc, List.cons_append, List.nil_append]
  rw [htext, hjson, hparts, countLiteral_spaces hne hvisible hbefore,
    countLiteral_append hne hbraces.1, countLiteral_append_spaces hne hvisible hopened,
    countLiteral_append hne hbraces.2, countLiteral_spaces hne hvisible hclosed,
    countLiteral_append_spaces hne hvisible hafter]
  omega

section Written

variable {readNumber : List Char → Option JsNumber}
  (hread : readNumber ['1'] = some (natNumber 1)) {envelope : AgentDecisionEnvelope}
  (hnonce : 32 ≤ envelope.nonce.length ∧ envelope.nonce.length ≤ 512)
  (hreason : 1 ≤ envelope.reason.length ∧ envelope.reason.length ≤ 1000)

include hread hnonce hreason

/-- The canonical text of an envelope is read back. -/
theorem parse_envelopeJson :
    (parse readNumber (canonicalJson (envelopeJson envelope))).bind parseEnvelope =
      some envelope := by
  have hkeys : (envelopeKeys.map js).Nodup := by decide
  have hwell : WellFormed (fun n => n = natNumber 1) (envelopeJson envelope) := by
    refine ⟨hkeys, ?_⟩
    simp [WellFormedEntries, WellFormed, jnat, jstr, jdigest]
  have hnumber : ∀ n, n = natNumber 1 → readNumber n.numeral = some n := by
    intro n hn
    rw [hn]
    exact hread
  rw [parse_canonicalJson readNumber hnumber hwell, Option.bind_some]
  exact parseEnvelope_of_perm rfl (List.perm_insertionSort leKey _) hnonce hreason

/-- What is written is read back, exactly if it is short enough and the text of
the envelope holds no marker. -/
theorem parseDecisionEnvelope_written [OutputPorts]
    (hparse : OutputPorts.jsonParse = parse readNumber) {before opened closed after : JsString}
    (hbefore : before.all isTrimmed = true) (hopened : opened.all isTrimmed = true)
    (hclosed : closed.all isTrimmed = true) (hafter : after.all isTrimmed = true) :
    parseDecisionEnvelope (writtenDecision before opened closed after envelope) =
        .ok envelope ↔
      utf8Length (writtenDecision before opened closed after envelope) ≤
          MAX_DECISION_OUTPUT_BYTES ∧
        countLiteral (canonicalJson (envelopeJson envelope)) EPOCH_DECISION_OPEN_MARKER = 0 ∧
        countLiteral (canonicalJson (envelopeJson envelope)) EPOCH_DECISION_CLOSE_MARKER = 0 := by
  -- a marker is counted once around the envelope, and else within its text
  have hopens : countLiteral (writtenDecision before opened closed after envelope)
      EPOCH_DECISION_OPEN_MARKER =
        1 + countLiteral (canonicalJson (envelopeJson envelope)) EPOCH_DECISION_OPEN_MARKER + 0 :=
    countLiteral_writtenDecision (by decide) (by decide) (by decide) hbefore hopened hclosed hafter
      envelope
  have hcloses : countLiteral (writtenDecision before opened closed after envelope)
      EPOCH_DECISION_CLOSE_MARKER =
        0 + countLiteral (canonicalJson (envelopeJson envelope)) EPOCH_DECISION_CLOSE_MARKER + 1 :=
    countLiteral_writtenDecision (by decide) (by decide) (by decide) hbefore hopened hclosed hafter
      envelope
  have htrimmed : trim (writtenDecision before opened closed after envelope) =
      EPOCH_DECISION_OPEN_MARKER ++ (opened ++ canonicalJson (envelopeJson envelope) ++ closed) ++
        EPOCH_DECISION_CLOSE_MARKER := trim_writtenDecision hbefore hafter
  have hmarked : EPOCH_DECISION_OPEN_MARKER.isPrefixOf
        (trim (writtenDecision before opened closed after envelope)) = true ∧
      EPOCH_DECISION_CLOSE_MARKER.isSuffixOf
        (trim (writtenDecision before opened closed after envelope)) = true := by
    rw [htrimmed]
    constructor
    · rw [List.isPrefixOf_iff_prefix, List.append_assoc]
      exact List.prefix_append _ _
    · rw [List.isSuffixOf_iff_suffix]
      exact List.suffix_append _ _
  -- what stands between the markers is the canonical text of the envelope
  have hcandidate : (OutputPorts.jsonParse (trim (betweenMarkers
      (trim (writtenDecision before opened closed after envelope))))).bind parseEnvelope =
        some envelope := by
    rw [htrimmed, betweenMarkers_marked, hparse]
    have hjson := parse_envelopeJson hread hnonce hreason
    rw [envelopeJson, trim_canonicalJson hopened hclosed]
    exact hjson
  obtain ⟨candidate, hjson, henvelope⟩ := Option.bind_eq_some_iff.mp hcandidate
  simp only [parseDecisionEnvelope, bind_eq_ok, require_eq_ok]
  constructor
  · intro h
    obtain ⟨-, hsize, -, hcounts, -⟩ := h
    rw [hopens, hcloses] at hcounts
    exact ⟨hsize, by omega, by omega⟩
  · intro h
    obtain ⟨hsize, hopenless, hcloseless⟩ := h
    rw [hopenless] at hopens
    rw [hcloseless] at hcloses
    exact ⟨(), hsize, (), ⟨hopens, hcloses⟩, (), hmarked, candidate, by simp [hjson, orStop],
      by simp [henvelope, orStop]⟩

end Written

namespace WrittenSample

/-- Reads the one number of an envelope. -/
def readNumber (numeral : List Char) : Option JsNumber :=
  if numeral = ['1'] then some (natNumber 1) else none

def envelope : AgentDecisionEnvelope where
  sessionId := ⟨"session_written", by decide⟩
  actionHash := ⟨List.replicate 64 '7', by decide⟩
  runAssignmentId := ⟨"assignment_written", by decide⟩
  role := .policy
  receiptId := ⟨"receipt_written", by decide⟩
  nonce := js "a nonce of \"at least\" 32 code units"
  verdict := .DENY
  reason := js "Two lines:\nno budget"

end WrittenSample

theorem parseDecisionEnvelope_written_sample : ∃ ports : OutputPorts,
    ports.jsonParse = parse WrittenSample.readNumber ∧
      @parseDecisionEnvelope ports
        (writtenDecision [0x20] [0x0A] [0x0D, 0x0A] [] WrittenSample.envelope) =
          .ok WrittenSample.envelope := by
  let ports : OutputPorts := ⟨parse WrittenSample.readNumber, id⟩
  refine ⟨ports, rfl, ?_⟩
  have hread : WrittenSample.readNumber ['1'] = some (natNumber 1) := rfl
  apply (parseDecisionEnvelope_written hread (by decide) (by decide) rfl rfl rfl rfl rfl).mpr
  decide +kernel

end DecisionParser

end EpochGuard
