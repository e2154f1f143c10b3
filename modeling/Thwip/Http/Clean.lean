/-
  Thwip.Http.Clean — what every parsed request head looks like.

  The encoder that forwards a request writes the parsed pieces back between
  separators of its own.  `RequestHead.Clean` collects the facts it relies on:
  token names, trimmed values, no line break in a value, no whitespace or
  control character in the target.  `parseRequestHead_clean` says the parser
  establishes them, and §3 that a clean line is read back as it was written.
-/
import Thwip.Http.Request

namespace Thwip

open Thwip.Lib

/-! ## §1. Clean heads. -/

/-- A non-empty sequence of token characters. -/
def TokenText (s : Str) : Prop :=
  s ≠ [] ∧ ∀ byte ∈ asBytes s, isToken byte = true

instance (s : Str) : Decidable (TokenText s) :=
  decidable_of_iff ((!s.isEmpty && (asBytes s).all isToken) = true) (by simp [TokenText])

/-- A non-empty text without ASCII whitespace or control characters. -/
def VisibleText (s : Str) : Prop :=
  s ≠ [] ∧ ∀ c ∈ s, isAsciiWhitespace c.toNat = false ∧ isAsciiControl c.toNat = false

structure Header.Clean (header : Header) : Prop where
  name_token : TokenText header.name
  name_lower : toAsciiLowercase header.name = header.name
  value_trimmed : trimMatches isOws header.value = header.value
  value_no_break : ∀ c ∈ header.value, c ≠ '\r' ∧ c ≠ '\n'

structure RequestHead.Clean (request : RequestHead) : Prop where
  method_token : TokenText request.method
  target_visible : VisibleText request.target
  headers_clean : ∀ header ∈ request.headers, header.Clean

/-! ## §2. Character classes. -/

theorem isAsciiControl_ascii {n : Nat} (h : isAsciiControl n = true) : n < 128 := by
  simp only [isAsciiControl, Bool.or_eq_true, decide_eq_true_eq, beq_iff_eq] at h
  omega

/-- A string has a control byte exactly when it has a control character. -/
theorem any_control_byte (s : Str) :
    (asBytes s).any (fun byte => isAsciiControl byte.toNat)
      = s.any (fun c => isAsciiControl c.toNat) := by
  rw [Bool.eq_iff_iff, List.any_eq_true, List.any_eq_true]
  constructor
  · rintro ⟨b, hb, hctl⟩
    obtain ⟨c, hc, hcb⟩ := (exists_mem_asBytes_iff (isAsciiControl_ascii hctl)).mp ⟨b, hb, rfl⟩
    exact ⟨c, hc, by rw [hcb]; exact hctl⟩
  · rintro ⟨c, hc, hctl⟩
    obtain ⟨b, hb, hbc⟩ := (exists_mem_asBytes_iff (isAsciiControl_ascii hctl)).mpr ⟨c, hc, rfl⟩
    exact ⟨b, hb, by rw [hbc]; exact hctl⟩

/-- The token characters, by code point. -/
def isTokenCode (n : Nat) : Bool :=
  isAsciiAlphanumeric n || "!#$%&'*+-.^_`|~".toList.any (fun c => c.toNat == n)

theorem isTokenCode_ascii : ∀ n, isTokenCode n = true → n < 128 := by
  intro n h
  simp only [isTokenCode, isAsciiAlphanumeric, isAsciiDigit, Bool.or_eq_true,
    Bool.and_eq_true, decide_eq_true_eq, List.any_eq_true, beq_iff_eq] at h
  rcases h with ((h | h) | h) | ⟨c, hc, rfl⟩
  · omega
  · omega
  · omega
  · have hall : "!#$%&'*+-.^_`|~".toList.all (fun c => decide (c.toNat < 128)) = true := by decide
    exact of_decide_eq_true (List.all_eq_true.mp hall c hc)

/-- No token character is a separator of the head's grammar. -/
theorem isTokenCode_not_separator :
    ∀ n < 128, isTokenCode n = true →
      n ≠ 0x3A ∧ n ≠ 0x0D ∧ isAsciiWhitespace n = false := by
  decide +kernel

/-- Lowering keeps token characters token characters. -/
theorem isTokenCode_lower :
    ∀ n < 128, isTokenCode n = true →
      isTokenCode (if 0x41 ≤ n ∧ n ≤ 0x5A then n + 32 else n) = true := by
  decide +kernel

theorem TokenText.char {s : Str} (h : TokenText s) :
    ∀ c ∈ s, isTokenCode c.toNat = true :=
  forall_char_of_forall_byte (P := fun n => isTokenCode n = true)
    isTokenCode_ascii h.2

theorem tokenText_of_char {s : Str} (hne : s ≠ [])
    (h : ∀ c ∈ s, isTokenCode c.toNat = true) : TokenText s :=
  ⟨hne, forall_byte_of_forall_char (P := fun n => isTokenCode n = true)
    isTokenCode_ascii h⟩

theorem TokenText.not_separator {s : Str} (h : TokenText s) :
    ∀ c ∈ s, c ≠ ':' ∧ c ≠ '\r' ∧ isAsciiWhitespace c.toNat = false := by
  intro c hc
  have htok := h.char c hc
  obtain ⟨hcolon, hcr, hws⟩ :=
    isTokenCode_not_separator c.toNat (isTokenCode_ascii _ htok) htok
  exact ⟨fun e => hcolon (e ▸ rfl), fun e => hcr (e ▸ rfl), hws⟩

theorem TokenText.lower {s : Str} (h : TokenText s) : TokenText (toAsciiLowercase s) := by
  refine tokenText_of_char (by simpa [toAsciiLowercase] using h.1) ?_
  intro c hc
  obtain ⟨d, hd, rfl⟩ := List.mem_map.mp hc
  have htok := h.char d hd
  rw [toNat_toLower]
  exact isTokenCode_lower _ (isTokenCode_ascii _ htok) htok

theorem VisibleText.no_cr {s : Str} (h : VisibleText s) : '\r' ∉ s := by
  intro hc
  exact absurd (h.2 _ hc).1 (by decide)

/-! ## §3. The parser establishes cleanness. -/

theorem parseRequestLine_clean {line method target : Str} {version : HttpVersion}
    (h : parseRequestLine line = .ok (method, target, version)) :
    TokenText method ∧ VisibleText target := by
  unfold parseRequestLine at h
  split at h
  next m t v parts hsplit =>
    have hmem : m ∈ splitAsciiWhitespace line ∧ t ∈ splitAsciiWhitespace line := by
      rw [hsplit]
      simp
    have hm := mem_splitAsciiWhitespace hmem.1
    have ht := mem_splitAsciiWhitespace hmem.2
    split at h
    · cases h
    split at h
    · cases h
    next hmethod =>
    split at h
    · cases h
    next htarget =>
    have heq : m = method ∧ t = target := by
      split_ifs at h <;> cases h <;> exact ⟨rfl, rfl⟩
    obtain ⟨rfl, rfl⟩ := heq
    rw [any_control_byte, Bool.or_eq_true, not_or, Bool.not_eq_true, Bool.not_eq_true,
        List.any_eq_false] at htarget
    refine ⟨⟨hm.1, by simpa using hmethod⟩, ht.1, fun c hc => ⟨ht.2 c hc, ?_⟩⟩
    exact Bool.eq_false_iff.mpr (htarget.2 c hc)
  next => cases h

theorem parseHeader_clean {line : Str} {header : Header}
    (h : parseHeader line = .ok header) : header.Clean := by
  unfold parseHeader at h
  split at h
  · cases h
  next name value _ =>
    split at h
    · cases h
    next hchecks =>
      cases h
      simp only [Bool.or_eq_true, not_or, Bool.not_eq_true, List.isEmpty_eq_false_iff,
        Bool.not_eq_false', List.all_eq_true, List.any_eq_false, beq_iff_eq] at hchecks
      obtain ⟨⟨hne, htok⟩, hbreak⟩ := hchecks
      have hname : TokenText name := ⟨hne, htok⟩
      exact
        { name_token := hname.lower
          name_lower := toAsciiLowercase_idem name
          value_trimmed := trimMatches_idem isOws value
          value_no_break := fun c hc => by
            have := hbreak c (mem_of_mem_trimMatches hc)
            tauto }

theorem parseHeaders_clean :
    ∀ {lines : List Str} {headers : List Header},
      parseHeaders lines = .ok headers → ∀ header ∈ headers, header.Clean
  | [], headers, h => by
      cases h
      simp
  | line :: lines, headers, h => by
      rw [parseHeaders] at h
      split at h
      · exact parseHeaders_clean h
      · cases hl : parseHeader line with
        | error e => rw [hl] at h; cases h
        | ok header =>
            cases hls : parseHeaders lines with
            | error e => rw [hl, hls] at h; cases h
            | ok rest =>
                rw [hl, hls] at h
                cases h
                intro x hx
                rcases List.mem_cons.mp hx with rfl | hx
                · exact parseHeader_clean hl
                · exact parseHeaders_clean hls x hx

theorem parseHead_clean {head : List UInt8} {request : RequestHead}
    (h : parseHead head = .ok request) : request.Clean := by
  unfold parseHead at h
  split at h
  · cases h
  split at h
  · cases h
  next requestLine lines _ =>
    cases hr : parseRequestLine requestLine with
    | error e => rw [hr] at h; cases h
    | ok r =>
        obtain ⟨method, target, version⟩ := r
        cases hls : parseHeaders lines with
        | error e => rw [hr, hls] at h; cases h
        | ok headers =>
            rw [hr, hls] at h
            cases h
            obtain ⟨hm, ht⟩ := parseRequestLine_clean hr
            exact ⟨hm, ht, parseHeaders_clean hls⟩

/-- **Every complete head is clean.** -/
theorem parseRequestHead_clean {bytes : List UInt8} {request : RequestHead}
    {consumed : Nat} (h : parseRequestHead bytes = .ok (.complete request consumed)) :
    request.Clean := by
  unfold parseRequestHead at h
  split at h
  · split at h <;> cases h
  next headEnd _ =>
    split at h
    · cases h
    cases hh : parseHead (bytes.take headEnd) with
    | error e => rw [hh] at h; cases h
    | ok r =>
        rw [hh] at h
        cases h
        exact parseHead_clean hh

/-! ## §4. Clean lines are read back. -/

/-- `{method} {target} HTTP/1.1` -/
def requestLineText (method target : Str) : Str :=
  method ++ ' ' :: (target ++ ' ' :: "HTTP/1.1".toList)

/-- `{name}: {value}` -/
def headerText (name value : Str) : Str := name ++ ':' :: ' ' :: value

theorem parseRequestLine_requestLineText {method target : Str}
    (hm : TokenText method) (ht : VisibleText target) :
    parseRequestLine (requestLineText method target) = .ok (method, target, .http11) := by
  unfold parseRequestLine requestLineText
  have hversion : "HTTP/1.1".toList.any (fun c => isAsciiWhitespace c.toNat) = false := by decide
  rw [splitAsciiWhitespace_three hm.1 ht.1 (by decide)
        (fun c hc => (hm.not_separator c hc).2.2) (fun c hc => (ht.2 c hc).1)
        (fun c hc => Bool.eq_false_iff.mpr (List.any_eq_false.mp hversion c hc))]
  have htok : (asBytes method).all isToken = true := by
    rw [List.all_eq_true]
    exact hm.2
  have hctl : (asBytes target).any (fun byte => isAsciiControl byte.toNat) = false := by
    rw [any_control_byte, List.any_eq_false]
    exact fun c hc => Bool.eq_false_iff.mp (ht.2 c hc).2
  have hne : target.isEmpty = false := by simpa using ht.1
  simp [htok, hctl, hne]

theorem parseHeader_headerText {name value : Str} (hn : TokenText name)
    (hv : trimMatches isOws value = value)
    (hb : ∀ c ∈ value, c ≠ '\r' ∧ c ≠ '\n') :
    parseHeader (headerText name value)
      = .ok { name := toAsciiLowercase name, value := value } := by
  unfold parseHeader headerText
  rw [splitOnce_append _ name (fun hc => (hn.not_separator _ hc).1 rfl)]
  dsimp only
  have htok : (asBytes name).all isToken = true := by
    rw [List.all_eq_true]
    exact hn.2
  have hne : name.isEmpty = false := by simpa using hn.1
  have hbreak : (' ' :: value).any (fun c => c == '\r' || c == '\n') = false := by
    rw [List.any_eq_false]
    intro c hc
    rcases List.mem_cons.mp hc with rfl | hc
    · decide
    · have := hb c hc
      simpa using this
  rw [hne, htok, hbreak, trimMatches_cons (by decide) hv]
  rfl

theorem parseHeader_of_clean {header : Header} (h : header.Clean) :
    parseHeader (headerText header.name header.value) = .ok header := by
  rw [parseHeader_headerText h.name_token h.value_trimmed h.value_no_break, h.name_lower]

end Thwip
