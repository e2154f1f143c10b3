/-
  Thwip.Http.Framing — when a request has a body length, and which.

  The loop over the `content-length` headers carries the length found so far.  It
  ends well just when every one of them says the same, and that is a property of
  the set of headers, so their order does not matter.
-/
import Thwip.Http.Request
import Thwip.Lib.Digits

namespace Thwip

open Thwip.Lib

variable {n : Nat}

/-! ## §1. One header. -/

/-- A value that denotes a length a `usize` can hold. -/
structure DenotesLength (value : Str) (n : Nat) : Prop where
  digits : DigitText value
  value : decimal value = n
  fits : n < 2 ^ usizeBits

/-- A header is taken when it denotes a length and the length found so far, if
any, is the same. -/
theorem contentLengthStep_ok_iff {found result : Option Nat} {header : Header} :
    contentLengthStep found header = .ok result ↔
      ∃ n, result = some n ∧ DenotesLength header.value n ∧ ∀ previous,
        found = some previous → previous = n := by
  unfold contentLengthStep
  by_cases hdigits : DigitText header.value
  · obtain ⟨hne, hbytes⟩ := digitText_iff_bytes.mp hdigits
    have hcheck : ¬ ((header.value.isEmpty
        || !(asBytes header.value).all (fun byte => isAsciiDigit byte.toNat)) = true) := by
      rw [Bool.or_eq_true, Bool.not_eq_true', not_or, Bool.not_eq_false, List.all_eq_true,
        List.isEmpty_iff]
      exact ⟨hne, hbytes⟩
    rw [if_neg hcheck, parseUnsigned_digitText hdigits]
    by_cases hfits : decimal header.value < 2 ^ usizeBits
    · rw [if_pos hfits]
      cases found with
      | none =>
          show Except.ok (some (decimal header.value)) = _ ↔ _
          constructor
          · intro h
            injection h with h
            exact ⟨_, h.symm, ⟨hdigits, rfl, hfits⟩, fun _ hnone => by cases hnone⟩
          · rintro ⟨n, rfl, hvalue, -⟩
            rw [hvalue.value]
      | some previous =>
          show (if previous ≠ decimal header.value then _ else _) = _ ↔ _
          by_cases hsame : previous = decimal header.value
          · rw [if_neg (not_not_intro hsame)]
            constructor
            · intro h
              injection h with h
              refine ⟨_, h.symm, ⟨hdigits, rfl, hfits⟩, fun other hother => ?_⟩
              injection hother with hother
              rw [← hother, hsame]
            · rintro ⟨n, rfl, hvalue, -⟩
              rw [hvalue.value]
          · rw [if_pos hsame]
            constructor
            · intro h
              cases h
            · rintro ⟨n, -, hvalue, hprevious⟩
              exact absurd ((hprevious _ rfl).trans hvalue.value.symm) hsame
    · rw [if_neg hfits]
      constructor
      · intro h
        cases h
      · rintro ⟨n, -, hvalue, -⟩
        have := hvalue.fits
        rw [← hvalue.value] at this
        exact absurd this hfits
  · have hcheck : (header.value.isEmpty
        || !(asBytes header.value).all (fun byte => isAsciiDigit byte.toNat)) = true := by
      by_contra hno
      rw [Bool.or_eq_true, Bool.not_eq_true', not_or, Bool.not_eq_false, List.all_eq_true,
        List.isEmpty_iff] at hno
      exact hdigits (digitText_iff_bytes.mpr hno)
    rw [if_pos hcheck]
    constructor
    · intro h
      cases h
    · rintro ⟨n, -, hvalue, -⟩
      exact absurd hvalue.digits hdigits

/-! ## §2. The loop. -/

/-- What is found at the end is what every header says, what had been found before,
and nothing if there was nothing to find it in. -/
theorem foldlM_contentLengthStep_ok_iff {headers : List Header} :
    ∀ {found result : Option Nat},
      headers.foldlM contentLengthStep found = .ok result ↔
        (∀ header ∈ headers, ∃ n, result = some n ∧ DenotesLength header.value n)
          ∧ (∀ previous, found = some previous → result = some previous)
          ∧ (headers = [] → result = found) := by
  induction headers with
  | nil =>
      intro found result
      show Except.ok found = Except.ok result ↔ _
      constructor
      · intro h
        injection h with h
        subst h
        exact ⟨fun _ hmem => (by cases hmem), fun _ hfound => hfound, fun _ => rfl⟩
      · rintro ⟨-, -, hnil⟩
        rw [hnil rfl]
  | cons header headers ih =>
      intro found result
      rw [List.foldlM_cons]
      constructor
      · intro h
        cases hstep : contentLengthStep found header with
        | error error =>
            rw [hstep] at h
            cases h
        | ok next =>
            rw [hstep] at h
            obtain ⟨n, rfl, hvalue, hprevious⟩ := contentLengthStep_ok_iff.mp hstep
            obtain ⟨hall, hkept, -⟩ := ih.mp h
            have hresult : result = some n := hkept n rfl
            refine ⟨?_, ?_, fun hnil => by cases hnil⟩
            · intro other hother
              rcases List.mem_cons.mp hother with rfl | hother
              · exact ⟨n, hresult, hvalue⟩
              · exact hall other hother
            · intro previous hfound
              rw [hprevious previous hfound, hresult]
      · rintro ⟨hall, hkept, -⟩
        obtain ⟨n, hresult, hvalue⟩ := hall header List.mem_cons_self
        have hstep : contentLengthStep found header = .ok (some n) := by
          rw [contentLengthStep_ok_iff]
          refine ⟨n, rfl, hvalue, ?_⟩
          intro previous hfound
          have hsame := hkept previous hfound
          rw [hresult] at hsame
          injection hsame with hsame
          exact hsame.symm
        rw [hstep]
        refine ih.mpr ⟨?_, ?_, ?_⟩
        · intro other hother
          exact hall other (List.mem_cons_of_mem _ hother)
        · intro previous hprevious
          rw [hresult, ← hprevious]
        · intro _
          exact hresult

/-! ## §3. The body length. -/

/-- The length that the headers agree on: the one every `content-length` header
denotes, and `0` without one. -/
structure AgreeOnLength (headers : List Header) (n : Nat) : Prop where
  no_encoding : ∀ header ∈ headers, header.name ≠ "transfer-encoding".toList
  agree : ∀ header ∈ headers, header.name = "content-length".toList →
    DenotesLength header.value n
  absent : (∀ header ∈ headers, header.name ≠ "content-length".toList) → n = 0

theorem AgreeOnLength.perm {headers others : List Header} (h : AgreeOnLength headers n)
    (hperm : headers.Perm others) : AgreeOnLength others n := by
  refine ⟨?_, ?_, ?_⟩
  · intro header hmem
    exact h.no_encoding header (hperm.symm.subset hmem)
  · intro header hmem
    exact h.agree header (hperm.symm.subset hmem)
  · intro hnone
    exact h.absent (fun header hmem => hnone header (hperm.subset hmem))

theorem bodyLength_ok_iff {request : RequestHead} :
    request.bodyLength = .ok n ↔ AgreeOnLength request.headers n := by
  unfold RequestHead.bodyLength
  by_cases hencoding :
      request.headers.any (fun header => header.name == "transfer-encoding".toList) = true
  · rw [if_pos hencoding]
    obtain ⟨header, hmem, hname⟩ := List.any_eq_true.mp hencoding
    constructor
    · intro h
      cases h
    · intro h
      exact absurd (beq_iff_eq.mp hname) (h.no_encoding header hmem)
  · rw [if_neg hencoding]
    have hno : ∀ header ∈ request.headers, header.name ≠ "transfer-encoding".toList := by
      intro header hmem hname
      exact hencoding (List.any_eq_true.mpr ⟨header, hmem, beq_iff_eq.mpr hname⟩)
    have hmem : ∀ header, header ∈ request.headers.filter
        (fun header => header.name == "content-length".toList)
        ↔ header ∈ request.headers ∧ header.name = "content-length".toList := by
      intro header
      rw [List.mem_filter, beq_iff_eq]
    have hnil : request.headers.filter (fun header => header.name == "content-length".toList) = []
        ↔ ∀ header ∈ request.headers, header.name ≠ "content-length".toList := by
      rw [List.filter_eq_nil_iff]
      simp only [beq_iff_eq, ne_eq]
    generalize request.headers.filter (fun header => header.name == "content-length".toList)
      = lengths at hmem hnil
    constructor
    · intro h
      cases hloop : lengths.foldlM contentLengthStep none with
      | error error =>
          rw [hloop] at h
          cases h
      | ok result =>
          rw [hloop] at h
          injection h with h
          obtain ⟨hall, -, hempty⟩ := foldlM_contentLengthStep_ok_iff.mp hloop
          refine ⟨hno, ?_, ?_⟩
          · intro header hheader hname
            obtain ⟨k, hk, hvalue⟩ := hall header ((hmem header).mpr ⟨hheader, hname⟩)
            rw [hk] at h
            rw [← h]
            exact hvalue
          · intro hnone
            rw [hempty (hnil.mpr hnone)] at h
            exact h.symm
    · intro h
      by_cases hlengths : lengths = []
      · rw [hlengths]
        show Except.ok 0 = _
        rw [h.absent (hnil.mp hlengths)]
      · have hloop : lengths.foldlM contentLengthStep none = .ok (some n) := by
          refine foldlM_contentLengthStep_ok_iff.mpr ⟨?_, ?_, ?_⟩
          · intro header hheader
            obtain ⟨hin, hname⟩ := (hmem header).mp hheader
            exact ⟨n, rfl, h.agree header hin hname⟩
          · intro previous hprevious
            cases hprevious
          · intro hnone
            exact absurd hnone hlengths
        rw [hloop]
        rfl

/-- **The body length of a request** is the one its headers agree on, and there is
an error when they do not.  So the order of the headers does not matter. -/
theorem body_length_is_agreed (request : RequestHead) (n : Nat) :
    (request.bodyLength = .ok n ↔ AgreeOnLength request.headers n)
      ∧ ∀ headers, request.headers.Perm headers →
          (({ request with headers } : RequestHead).bodyLength = .ok n ↔
            request.bodyLength = .ok n) := by
  refine ⟨bodyLength_ok_iff, ?_⟩
  intro headers hperm
  rw [bodyLength_ok_iff, bodyLength_ok_iff]
  constructor
  · intro h
    exact h.perm hperm.symm
  · intro h
    exact h.perm hperm

/-- Leading zeros do not make a conflict. -/
example : RequestHead.bodyLength ⟨"GET".toList, "/".toList, .http11,
    [⟨"content-length".toList, "007".toList⟩, ⟨"content-length".toList, "7".toList⟩]⟩
      = .ok 7 := by decide

end Thwip
