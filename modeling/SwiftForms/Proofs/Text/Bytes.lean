import SwiftForms.Proofs.Form.Joining

/-!
# Texts and their bytes

A byte string is taken as a text without loss: the bytes of the text are those of the byte string. So
among the texts that byte strings are taken as, no two have the same bytes. Texts of ASCII characters are
among them.
-/

namespace SwiftForms

namespace Text

/-- The code point of a character, taken as a character, has that code point. -/
theorem toNat_val_ofNat {n : Nat} (h : n.isValidChar) : (Char.ofNat n).val.toNat = n := by
  rw [Char.ofNat, dif_pos h]
  rfl

/-- A byte that continues a sequence lies in the range of such bytes. -/
theorem isContinuation_iff {b : UInt8} : isContinuation b = true ↔ 0x80 ≤ b.toNat ∧ b.toNat ≤ 0xBF := by
  simp [isContinuation]

/-- The first byte of a sequence and the bounds on the second one, by the number of bytes after the
first. The bounds keep out code points that fewer bytes have room for, surrogates, and code points beyond
the last one. -/
theorem followers?_cases {lead low high count : Nat} (h : followers? lead = some (low, high, count)) :
    (count = 1 ∧ 0xC2 ≤ lead ∧ lead ≤ 0xDF ∧ low = 0x80 ∧ high = 0xBF) ∨
      (count = 2 ∧ 0xE0 ≤ lead ∧ lead ≤ 0xEF ∧ 0x80 ≤ low ∧ high ≤ 0xBF ∧ (lead = 0xE0 → low = 0xA0) ∧
        (lead = 0xED → high = 0x9F)) ∨
      (count = 3 ∧ 0xF0 ≤ lead ∧ lead ≤ 0xF4 ∧ 0x80 ≤ low ∧ high ≤ 0xBF ∧ (lead = 0xF0 → low = 0x90) ∧
        (lead = 0xF4 → high = 0x8F)) := by
  unfold followers? at h
  simp only [Bool.and_eq_true, decide_eq_true_eq] at h
  repeat' split at h
  all_goals simp only [Option.some.injEq, Prod.mk.injEq, reduceCtorEq] at h
  all_goals omega

/-- The bytes of the character that a single byte stands for. -/
theorem utf8EncodeChar_one {lead : UInt8} (h : lead.toNat < 0x80) :
    String.utf8EncodeChar (Char.ofNat lead.toNat) = [lead] := by
  have hval : (Char.ofNat lead.toNat).val.toNat = lead.toNat := toNat_val_ofNat (.inl (by omega))
  simp only [String.utf8EncodeChar, hval]
  rw [if_pos (by omega), UInt8.ofNat_toNat]

/-- The bytes of the character that two bytes stand for. -/
theorem utf8EncodeChar_two {lead b : UInt8} (hlead : 0xC2 ≤ lead.toNat ∧ lead.toNat ≤ 0xDF)
    (hb : 0x80 ≤ b.toNat ∧ b.toNat ≤ 0xBF) :
    String.utf8EncodeChar (Char.ofNat ((lead.toNat - 0xC0) * 64 + (b.toNat - 0x80))) = [lead, b] := by
  generalize hn : (lead.toNat - 0xC0) * 64 + (b.toNat - 0x80) = n
  have hval : (Char.ofNat n).val.toNat = n := toNat_val_ofNat (.inl (by omega))
  have hfirst : n / 64 % 32 + 192 = lead.toNat := by omega
  have hsecond : n % 64 + 128 = b.toNat := by omega
  simp only [String.utf8EncodeChar, hval]
  rw [if_neg (by omega), if_pos (by omega), hfirst, hsecond, UInt8.ofNat_toNat, UInt8.ofNat_toNat]

/-- The bytes of the character that three bytes stand for. -/
theorem utf8EncodeChar_three {lead b c : UInt8} (hlead : 0xE0 ≤ lead.toNat ∧ lead.toNat ≤ 0xEF)
    (hb : 0x80 ≤ b.toNat ∧ b.toNat ≤ 0xBF) (hlow : lead.toNat = 0xE0 → 0xA0 ≤ b.toNat)
    (hhigh : lead.toNat = 0xED → b.toNat ≤ 0x9F) (hc : 0x80 ≤ c.toNat ∧ c.toNat ≤ 0xBF) :
    String.utf8EncodeChar
      (Char.ofNat ((lead.toNat - 0xE0) * 4096 + (b.toNat - 0x80) * 64 + (c.toNat - 0x80))) =
      [lead, b, c] := by
  generalize hn : (lead.toNat - 0xE0) * 4096 + (b.toNat - 0x80) * 64 + (c.toNat - 0x80) = n
  have hvalid : n.isValidChar := by
    unfold Nat.isValidChar
    omega
  have hval : (Char.ofNat n).val.toNat = n := toNat_val_ofNat hvalid
  have hfirst : n / 4096 % 16 + 224 = lead.toNat := by omega
  have hsecond : n / 64 % 64 + 128 = b.toNat := by omega
  have hthird : n % 64 + 128 = c.toNat := by omega
  simp only [String.utf8EncodeChar, hval]
  rw [if_neg (by omega), if_neg (by omega), if_pos (by omega), hfirst, hsecond, hthird,
    UInt8.ofNat_toNat, UInt8.ofNat_toNat, UInt8.ofNat_toNat]

/-- The bytes of the character that four bytes stand for. -/
theorem utf8EncodeChar_four {lead b c d : UInt8} (hlead : 0xF0 ≤ lead.toNat ∧ lead.toNat ≤ 0xF4)
    (hb : 0x80 ≤ b.toNat ∧ b.toNat ≤ 0xBF) (hlow : lead.toNat = 0xF0 → 0x90 ≤ b.toNat)
    (hhigh : lead.toNat = 0xF4 → b.toNat ≤ 0x8F) (hc : 0x80 ≤ c.toNat ∧ c.toNat ≤ 0xBF)
    (hd : 0x80 ≤ d.toNat ∧ d.toNat ≤ 0xBF) :
    String.utf8EncodeChar
      (Char.ofNat ((lead.toNat - 0xF0) * 262144 + (b.toNat - 0x80) * 4096 + (c.toNat - 0x80) * 64 +
        (d.toNat - 0x80))) = [lead, b, c, d] := by
  generalize hn : (lead.toNat - 0xF0) * 262144 + (b.toNat - 0x80) * 4096 + (c.toNat - 0x80) * 64 +
    (d.toNat - 0x80) = n
  have hvalid : n.isValidChar := by
    unfold Nat.isValidChar
    omega
  have hval : (Char.ofNat n).val.toNat = n := toNat_val_ofNat hvalid
  have hfirst : n / 262144 % 8 + 240 = lead.toNat := by omega
  have hsecond : n / 4096 % 64 + 128 = b.toNat := by omega
  have hthird : n / 64 % 64 + 128 = c.toNat := by omega
  have hfourth : n % 64 + 128 = d.toNat := by omega
  simp only [String.utf8EncodeChar, hval]
  rw [if_neg (by omega), if_neg (by omega), if_neg (by omega), hfirst, hsecond, hthird, hfourth,
    UInt8.ofNat_toNat, UInt8.ofNat_toNat, UInt8.ofNat_toNat, UInt8.ofNat_toNat]

/-- The bytes of a character that stands at the start of a byte string are the bytes it was taken
from. -/
theorem utf8EncodeChar_of_leadingChar? {lead : UInt8} {rest : List UInt8} {c : Char} {taken : Nat}
    (h : leadingChar? lead rest = some (c, taken)) :
    String.utf8EncodeChar c ++ rest.drop taken = lead :: rest := by
  unfold leadingChar? at h
  split at h
  · obtain ⟨rfl, rfl⟩ := Prod.mk.inj (Option.some.inj h)
    rw [utf8EncodeChar_one ‹_›]
    rfl
  · split at h
    · rename_i low high b later hfollowers
      have hlead := followers?_cases hfollowers
      split at h
      · rename_i hbytes
        obtain ⟨rfl, rfl⟩ := Prod.mk.inj (Option.some.inj h)
        simp only [Bool.and_eq_true, decide_eq_true_eq] at hbytes
        rw [utf8EncodeChar_two (by omega) (by omega)]
        rfl
      · cases h
    · rename_i low high b c later hfollowers
      have hlead := followers?_cases hfollowers
      split at h
      · rename_i hbytes
        obtain ⟨rfl, rfl⟩ := Prod.mk.inj (Option.some.inj h)
        simp only [Bool.and_eq_true, decide_eq_true_eq, isContinuation_iff] at hbytes
        rw [utf8EncodeChar_three (by omega) (by omega) (by omega) (by omega) hbytes.2]
        rfl
      · cases h
    · rename_i low high b c d later hfollowers
      have hlead := followers?_cases hfollowers
      split at h
      · rename_i hbytes
        obtain ⟨rfl, rfl⟩ := Prod.mk.inj (Option.some.inj h)
        simp only [Bool.and_eq_true, decide_eq_true_eq, isContinuation_iff] at hbytes
        rw [utf8EncodeChar_four (by omega) (by omega) (by omega) (by omega) hbytes.1.2 hbytes.2]
        rfl
      · cases h
    · cases h

/-- A byte string is taken as a text without loss. -/
theorem bytes_ofBytes (source : List UInt8) : (ofBytes source).bytes = source := by
  fun_induction ofBytes source with
  | case1 => rfl
  | case2 lead rest c taken hlead ih =>
    have hchar := utf8EncodeChar_of_leadingChar? hlead
    rw [bytes, List.flatMap_cons, ← bytes, ih]
    exact hchar
  | case3 lead rest hlead ih =>
    rw [bytes, List.flatMap_cons, ← bytes, ih]
    rfl

/-- A text that a byte string is taken as. -/
def IsDecoded (t : Text) : Prop :=
  ∃ source, t = ofBytes source

/-- Such a text is what its bytes are taken as. -/
theorem ofBytes_bytes {t : Text} (h : t.IsDecoded) : ofBytes t.bytes = t := by
  obtain ⟨source, rfl⟩ := h
  rw [bytes_ofBytes]

/-- Such texts are told apart by their bytes. -/
theorem bytes_inj {t u : Text} (ht : t.IsDecoded) (hu : u.IsDecoded) :
    t.bytes = u.bytes ↔ t = u := by
  constructor
  · intro h
    rw [← ofBytes_bytes ht, h, ofBytes_bytes hu]
  · exact congrArg bytes

end Text

/-- An ASCII character. -/
def Glyph.isAscii : Glyph → Bool
  | .char c => c.toNat < 0x80
  | .stray _ => false

/-- An ASCII character is one byte. -/
theorem Glyph.bytes_of_ascii {c : Char} (h : c.toNat < 0x80) :
    bytes (.char c) = [UInt8.ofNat c.toNat] := by
  have hsmall : c.val.toNat ≤ 127 := Nat.le_of_lt_succ h
  simp only [bytes, String.utf8EncodeChar]
  rw [if_pos hsmall]
  rfl

/-- A text of ASCII characters is what its bytes are taken as. -/
theorem Text.isDecoded_of_ascii {t : Text} (h : ∀ g ∈ t, g.isAscii = true) : t.IsDecoded := by
  refine ⟨t.bytes, ?_⟩
  induction t with
  | nil => rw [bytes, List.flatMap_nil, ofBytes]
  | cons g rest ih =>
    obtain ⟨hg, hrest⟩ := List.forall_mem_cons.mp h
    cases g with
    | stray byte => cases hg
    | char c =>
      have hsmall : c.toNat < 0x80 := of_decide_eq_true hg
      have hbyte : (UInt8.ofNat c.toNat).toNat = c.toNat :=
        UInt8.toNat_ofNat_of_lt' (Nat.lt_trans hsmall (by decide))
      have hlead : leadingChar? (UInt8.ofNat c.toNat) (bytes rest) = some (c, 0) := by
        unfold leadingChar?
        rw [hbyte, if_pos hsmall]
        exact congrArg (fun c => some (c, 0)) c.ofNat_toNat
      have hbytes : bytes (.char c :: rest) = UInt8.ofNat c.toNat :: bytes rest := by
        rw [bytes, List.flatMap_cons, Glyph.bytes_of_ascii hsmall]
        rfl
      rw [hbytes, ofBytes, hlead]
      exact congrArg (Glyph.char c :: ·) (ih hrest)

end SwiftForms
