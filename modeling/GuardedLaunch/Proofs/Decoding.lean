import GuardedLaunch.Text.Utf8

/-!
# What decoding keeps

A text is shown as itself after a detour over its bytes, and the ASCII characters of a byte
string are exactly those that are shown, whatever surrounds them: a decoder that replaces
what is ill-formed neither hides such a character nor makes one up.

- `Utf8.lead_eq`: the first byte of a character, in numbers.
- `Utf8.scan_utf8EncodeChar`: the bytes of a character are read as that character.
- `decodeLossy_utf8`: so a text survives.
- `Utf8.Partial.Wide`: an unfinished character that will not turn out to be ASCII.
- `count_decodeLossy`: an ASCII character is shown as often as its byte is there.
-/

namespace GuardedLaunch

namespace Utf8

/-! ## The decoder in numbers -/

theorem ofUInt8_eq (b : UInt8) : Char.ofUInt8 b = Char.ofNat b.toNat := by
  have hvalid : b.toNat.isValidChar := Or.inl (Nat.lt_trans b.toNat_lt (by decide))
  rw [Char.ofNat, dif_pos hvalid]
  rfl

theorem lead_eq (b : UInt8) :
    lead b =
      if b.toNat < 0x80 then ⟨[some (Char.ofNat b.toNat)], none⟩
      else if b.toNat < 0xC2 then ⟨[none], none⟩
      else if b.toNat < 0xE0 then ⟨[], some { bits := b.toNat - 0xC0, more := 0 }⟩
      else if b.toNat = 0xE0 then ⟨[], some { bits := 0x0, more := 1, low := 0xA0 }⟩
      else if b.toNat = 0xED then ⟨[], some { bits := 0xD, more := 1, high := 0x9F }⟩
      else if b.toNat < 0xF0 then ⟨[], some { bits := b.toNat - 0xE0, more := 1 }⟩
      else if b.toNat = 0xF0 then ⟨[], some { bits := 0, more := 2, low := 0x90 }⟩
      else if b.toNat < 0xF4 then ⟨[], some { bits := b.toNat - 0xF0, more := 2 }⟩
      else if b.toNat = 0xF4 then ⟨[], some { bits := 4, more := 2, high := 0x8F }⟩
      else ⟨[none], none⟩ := by
  -- the subtractions do not wrap around behind the comparisons that guard them
  have hsub (base : UInt8) (h : base.toNat ≤ b.toNat) :
      (b - base).toNat = b.toNat - base.toNat :=
    UInt8.toNat_sub_of_le _ _ (UInt8.le_iff_toNat_le.mpr h)
  have htwo := hsub 0xC0
  have hthree := hsub 0xE0
  have hfour := hsub 0xF0
  simp only [UInt8.reduceToNat] at htwo hthree hfour
  simp only [lead, UInt8.lt_iff_toNat_lt, ← UInt8.toNat_inj, UInt8.reduceToNat, ofUInt8_eq]
  grind

/-- An unfinished character and the next byte, in numbers. -/
theorem push_eq (p : Partial) {b : UInt8} (h : 0x80 ≤ b.toNat) :
    p.push b =
      match p.more with
      | 0 => ⟨[some (Char.ofNat (p.bits * 64 + (b.toNat - 0x80)))], none⟩
      | more + 1 => ⟨[], some { bits := p.bits * 64 + (b.toNat - 0x80), more }⟩ := by
  have hsub : (b - 0x80).toNat = b.toNat - 0x80 :=
    UInt8.toNat_sub_of_le _ _ (UInt8.le_iff_toNat_le.mpr h)
  cases hmore : p.more with
  | zero => simp only [Partial.push, hmore, hsub]
  | succ more => simp only [Partial.push, hmore, hsub]

/-! ## One byte after another -/

section

variable {p : Partial} {b : UInt8} (rest : Bytes)

/-- A byte in the interval continues an unfinished character. -/
theorem scan_of_mem (low : p.low.toNat ≤ b.toNat) (high : b.toNat ≤ p.high.toNat) :
    scan (some p) (b :: rest) = (p.push b).recognised ++ scan (p.push b).pending rest := by
  have hmem : p.low ≤ b ∧ b ≤ p.high :=
    ⟨UInt8.le_iff_toNat_le.mpr low, UInt8.le_iff_toNat_le.mpr high⟩
  rw [scan, step, if_pos hmem]

/-- Any other byte ends it, and is read as the first of a character. -/
theorem scan_of_not_mem (h : ¬ (p.low.toNat ≤ b.toNat ∧ b.toNat ≤ p.high.toNat)) :
    scan (some p) (b :: rest) = none :: scan none (b :: rest) := by
  rw [← UInt8.le_iff_toNat_le, ← UInt8.le_iff_toNat_le] at h
  rw [scan, step, if_neg h]
  rfl

theorem scan_none_cons :
    scan none (b :: rest) = (lead b).recognised ++ scan (lead b).pending rest := rfl

end

section

variable {n : Nat} (rest : Bytes)

/-- The last byte of a character, by its six bits. -/
theorem scan_last {p : Partial} (last : p.more = 0) (hn : n < 64)
    (low : p.low.toNat ≤ n + 0x80) (high : n + 0x80 ≤ p.high.toNat) :
    scan (some p) (UInt8.ofNat (n + 0x80) :: rest)
      = some (Char.ofNat (p.bits * 64 + n)) :: scan none rest := by
  have hb : (UInt8.ofNat (n + 0x80)).toNat = n + 0x80 :=
    UInt8.toNat_ofNat_of_lt' (show n + 0x80 < 256 by omega)
  rw [scan_of_mem rest (by omega) (by omega), push_eq p (by omega), last, hb,
    Nat.add_sub_cancel]
  rfl

/-- A byte in the middle of a character, by its six bits. -/
theorem scan_middle {p : Partial} {more : Nat} (due : p.more = more + 1) (hn : n < 64)
    (low : p.low.toNat ≤ n + 0x80) (high : n + 0x80 ≤ p.high.toNat) :
    scan (some p) (UInt8.ofNat (n + 0x80) :: rest)
      = scan (some { bits := p.bits * 64 + n, more }) rest := by
  have hb : (UInt8.ofNat (n + 0x80)).toNat = n + 0x80 :=
    UInt8.toNat_ofNat_of_lt' (show n + 0x80 < 256 by omega)
  rw [scan_of_mem rest (by omega) (by omega), push_eq p (by omega), due, hb,
    Nat.add_sub_cancel]
  rfl

/-- The first of two bytes. -/
theorem scan_two (low : 2 ≤ n) (high : n < 32) :
    scan none (UInt8.ofNat (n + 0xC0) :: rest) = scan (some { bits := n, more := 0 }) rest := by
  have hbyte : n + 0xC0 < 256 := by omega
  rw [scan_none_cons, lead_eq, UInt8.toNat_ofNat_of_lt' hbyte, if_neg (by omega),
    if_neg (by omega), if_pos (by omega), Nat.add_sub_cancel]
  rfl

/-- The first of three bytes. -/
theorem scan_three (high : n < 16) :
    scan none (UInt8.ofNat (n + 0xE0) :: rest)
      = scan (some { bits := n, more := 1, low := if n = 0 then 0xA0 else 0x80,
                     high := if n = 0xD then 0x9F else 0xBF }) rest := by
  have hbyte : n + 0xE0 < 256 := by omega
  rw [scan_none_cons, lead_eq, UInt8.toNat_ofNat_of_lt' hbyte]
  grind

/-- The first of four bytes. -/
theorem scan_four (high : n < 5) :
    scan none (UInt8.ofNat (n + 0xF0) :: rest)
      = scan (some { bits := n, more := 2, low := if n = 0 then 0x90 else 0x80,
                     high := if n = 4 then 0x8F else 0xBF }) rest := by
  have hbyte : n + 0xF0 < 256 := by omega
  rw [scan_none_cons, lead_eq, UInt8.toNat_ofNat_of_lt' hbyte]
  grind

end

/-! ## Characters -/

/-- The bytes of a character are read as that character. -/
theorem scan_utf8EncodeChar (c : Char) (rest : Bytes) :
    scan none (String.utf8EncodeChar c ++ rest) = some c :: scan none rest := by
  have hc : Char.ofNat c.val.toNat = c := Char.ofNat_toNat c
  have hvalid : c.val.toNat < 0xD800 ∨ (0xDFFF < c.val.toNat ∧ c.val.toNat < 0x110000) :=
    c.valid
  unfold String.utf8EncodeChar
  generalize c.val.toNat = v at hc hvalid
  dsimp only
  -- the four lengths; what a first byte rules out for the second is what `hvalid` and the
  -- length rule out for the number
  by_cases h₁ : v ≤ 0x7f
  · have hbyte : v < 256 := by omega
    rw [if_pos h₁, List.singleton_append, scan_none_cons, lead_eq,
      UInt8.toNat_ofNat_of_lt' hbyte, if_pos (by omega), hc]
    rfl
  by_cases h₂ : v ≤ 0x7ff
  · have hv : v / 64 % 32 * 64 + v % 64 = v := by omega
    rw [if_neg h₁, if_pos h₂, List.cons_append, List.singleton_append,
      scan_two _ (by omega) (by omega), scan_last _ rfl (by omega) (by simp) (by simp; omega),
      hv, hc]
  by_cases h₃ : v ≤ 0xffff
  · have hv : (v / 4096 % 16 * 64 + v / 64 % 64) * 64 + v % 64 = v := by omega
    have hlow : (if v / 4096 % 16 = 0 then 0xA0 else 0x80 : UInt8).toNat
        ≤ v / 64 % 64 + 0x80 := by
      split
      · simp
        omega
      · simp
    have hhigh : v / 64 % 64 + 0x80
        ≤ (if v / 4096 % 16 = 0xD then 0x9F else 0xBF : UInt8).toNat := by
      split
      · simp
        omega
      · simp
        omega
    rw [if_neg h₁, if_neg h₂, if_pos h₃, List.cons_append, List.cons_append,
      List.singleton_append, scan_three _ (by omega), scan_middle _ rfl (by omega) hlow hhigh,
      scan_last _ rfl (by omega) (by simp) (by simp; omega), hv, hc]
  · have hv : ((v / 262144 % 8 * 64 + v / 4096 % 64) * 64 + v / 64 % 64) * 64 + v % 64 = v := by
      omega
    have hlow : (if v / 262144 % 8 = 0 then 0x90 else 0x80 : UInt8).toNat
        ≤ v / 4096 % 64 + 0x80 := by
      split
      · simp
        omega
      · simp
    have hhigh : v / 4096 % 64 + 0x80
        ≤ (if v / 262144 % 8 = 4 then 0x8F else 0xBF : UInt8).toNat := by
      split
      · simp
        omega
      · simp
        omega
    rw [if_neg h₁, if_neg h₂, if_neg h₃, List.cons_append, List.cons_append,
      List.cons_append, List.singleton_append, scan_four _ (by omega),
      scan_middle _ rfl (by omega) hlow hhigh,
      scan_middle _ rfl (by omega) (by simp) (by simp; omega),
      scan_last _ rfl (by omega) (by simp) (by simp; omega), hv, hc]

/-- The bytes of a text are read as its characters, and nothing in them is ill-formed. -/
theorem pieces_utf8 (text : String) : pieces (utf8 text) = text.toList.map some := by
  rw [pieces, utf8]
  induction text.toList with
  | nil => rfl
  | cons c rest ih => rw [List.flatMap_cons, scan_utf8EncodeChar, ih, List.map_cons]

end Utf8

/-- A text is shown as itself. -/
theorem decodeLossy_utf8 (text : String) : decodeLossy (utf8 text) = text := by
  have hid : (·.getD Utf8.replacement) ∘ some = (id : Char → Char) := rfl
  rw [decodeLossy, Utf8.pieces_utf8, List.map_map, hid, List.map_id, String.ofList_toList]

/-! ## ASCII characters -/

namespace Utf8

/-- An unfinished character that will not turn out to be ASCII, by the least number that it
can still come to. -/
structure Partial.Wide (p : Partial) : Prop where
  low : 0x80 ≤ p.low.toNat
  bits : (if p.more = 0 then 0x80 else 2) ≤ p.bits * 64 + (p.low.toNat - 0x80)

/-- A first byte is ASCII, or it leads to a character that is not. -/
theorem lead_spec (b : UInt8) :
    (b.toNat < 0x80 ∧ lead b = ⟨[some (Char.ofNat b.toNat)], none⟩) ∨
      (0x80 ≤ b.toNat ∧ (∀ c, some c ∉ (lead b).recognised) ∧
        ∀ p, (lead b).pending = some p → p.Wide) := by
  by_cases ascii : b.toNat < 0x80
  · exact Or.inl ⟨ascii, by rw [lead_eq, if_pos ascii]⟩
  · refine Or.inr ⟨Nat.le_of_not_lt ascii, fun c => ?_, fun p hp => ?_⟩
    · rw [lead_eq, if_neg ascii]
      repeat' split
      all_goals simp
    · rw [lead_eq, if_neg ascii] at hp
      -- each kind of first byte excludes what could be written in fewer bytes
      repeat' split at hp
      all_goals simp only [Option.some.injEq, reduceCtorEq] at hp
      all_goals
        subst hp
        constructor <;> simp <;> omega

/-- A character is the one of a number or, if the number has none, NUL. -/
theorem toNat_ofNat_eq_or (n : Nat) :
    (Char.ofNat n).toNat = n ∨ (Char.ofNat n).toNat = 0 := by
  by_cases hvalid : n.isValidChar
  · rw [Char.ofNat, dif_pos hvalid]
    exact Or.inl rfl
  · rw [Char.ofNat, dif_neg hvalid]
    exact Or.inr rfl

/-- A byte that continues such a character completes none that is ASCII. -/
theorem Partial.Wide.push {p : Partial} (wide : p.Wide) {b : UInt8}
    (low : p.low.toNat ≤ b.toNat) :
    (∀ c, some c ∈ (p.push b).recognised → c.toNat = 0 ∨ 0x80 ≤ c.toNat) ∧
      ∀ q, (p.push b).pending = some q → q.Wide := by
  obtain ⟨hlow, hbits⟩ := wide
  rw [push_eq p (Nat.le_trans hlow low)]
  cases hmore : p.more with
  | zero =>
    rw [hmore, if_pos rfl] at hbits
    refine ⟨fun c hc => ?_, fun q hq => absurd hq (Option.some_ne_none q).symm⟩
    have hc : c = Char.ofNat _ := Option.some.inj (List.mem_singleton.mp hc)
    rw [hc]
    rcases toNat_ofNat_eq_or (p.bits * 64 + (b.toNat - 0x80)) with h | h
    · right
      omega
    · exact Or.inl h
  | succ more =>
    rw [hmore, if_neg (Nat.succ_ne_zero more)] at hbits
    refine ⟨fun c hc => absurd hc List.not_mem_nil, fun q hq => ?_⟩
    rw [← Option.some.inj hq]
    refine ⟨by simp, ?_⟩
    dsimp only
    split <;> simp <;> omega

section

variable {c : Char} (pos : 0 < c.toNat) (ascii : c.toNat < 0x80)

include ascii in
/-- A byte and the byte of an ASCII character, by their numbers. -/
theorem eq_byte_iff (b : UInt8) : b = UInt8.ofNat c.toNat ↔ b.toNat = c.toNat := by
  have hbyte : c.toNat < 256 := by omega
  rw [← UInt8.toNat_inj, UInt8.toNat_ofNat_of_lt' hbyte]

include pos in
/-- A character of a number is the one of that number, if that is not NUL. -/
theorem ofNat_eq_iff (n : Nat) : Char.ofNat n = c ↔ n = c.toNat := by
  constructor
  · intro h
    rcases toNat_ofNat_eq_or n with hn | hn
    · rw [← h, hn]
    · rw [h] at hn
      omega
  · intro h
    rw [h, Char.ofNat_toNat]

include pos ascii in
/-- Behind an unfinished character that is not ASCII, an ASCII character is read exactly
where its byte stands. -/
theorem count_scan (bytes : Bytes) : ∀ pending : Option Partial,
    (∀ p, pending = some p → p.Wide) →
      (scan pending bytes).count (some c) = bytes.count (UInt8.ofNat c.toNat) := by
  induction bytes with
  | nil =>
    intro pending _
    cases pending with
    | none => rfl
    | some p => rfl
  | cons b rest ih =>
    -- the byte as the first of a character
    have hlead : (scan none (b :: rest)).count (some c)
        = (b :: rest).count (UInt8.ofNat c.toNat) := by
      rw [scan_none_cons, List.count_append, List.count_cons]
      rcases lead_spec b with ⟨-, hlead⟩ | ⟨hb, hnone, hwide⟩
      · have hsame : (some (Char.ofNat b.toNat) == some c) = (b == UInt8.ofNat c.toNat) := by
          rw [Bool.eq_iff_iff, beq_iff_eq, beq_iff_eq, Option.some.injEq, ofNat_eq_iff pos,
            eq_byte_iff ascii]
        have hrest := ih none fun p hp => absurd hp (Option.some_ne_none p).symm
        rw [hlead]
        dsimp only
        rw [hrest, List.count_singleton, hsame, Nat.add_comm]
      · have hne : (b == UInt8.ofNat c.toNat) = false := by
          rw [beq_eq_false_iff_ne, ne_eq, eq_byte_iff ascii]
          omega
        rw [ih _ hwide, List.count_eq_zero.mpr (hnone c), hne, Nat.zero_add]
        rfl
    intro pending wide
    cases pending with
    | none => exact hlead
    | some p =>
      have hp := wide p rfl
      by_cases hmem : p.low.toNat ≤ b.toNat ∧ b.toNat ≤ p.high.toNat
      · obtain ⟨hpush, hwide⟩ := hp.push hmem.1
        have hlow := hp.low
        have hne : (b == UInt8.ofNat c.toNat) = false := by
          rw [beq_eq_false_iff_ne, ne_eq, eq_byte_iff ascii]
          omega
        have hnone : some c ∉ (p.push b).recognised := by
          intro hc
          have := hpush c hc
          omega
        rw [scan_of_mem rest hmem.1 hmem.2, List.count_append, List.count_cons, ih _ hwide,
          List.count_eq_zero.mpr hnone, hne, Nat.zero_add]
        rfl
      · rw [scan_of_not_mem rest hmem, List.count_cons, hlead]
        rfl

end

end Utf8

/-- An ASCII character other than NUL is shown as often as its byte is there. -/
theorem count_decodeLossy {c : Char} (pos : 0 < c.toNat) (ascii : c.toNat < 0x80)
    (bytes : Bytes) : (decodeLossy bytes).toList.count c = bytes.count (UInt8.ofNat c.toNat) := by
  have hscan := Utf8.count_scan pos ascii bytes none
    fun p hp => absurd hp (Option.some_ne_none p).symm
  have hshown (piece : Option Char) : (piece.getD Utf8.replacement == c) = (piece == some c) := by
    cases piece with
    | none =>
      -- what stands for an ill-formed piece is not ASCII
      have hreplacement : Utf8.replacement.toNat = 0xFFFD := by decide
      have hne : Utf8.replacement ≠ c := by
        rintro rfl
        omega
      rw [Option.getD_none, beq_eq_false_iff_ne.mpr hne]
      rfl
    | some shown =>
      rw [Option.getD_some, Bool.eq_iff_iff, beq_iff_eq, beq_iff_eq, Option.some.injEq]
  rw [← hscan, decodeLossy, String.toList_ofList, Utf8.pieces, List.count, List.countP_map]
  exact List.countP_congr fun piece _ => by rw [Function.comp_apply, hshown]

end GuardedLaunch
