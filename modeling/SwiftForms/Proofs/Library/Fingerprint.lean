import Mathlib.Data.List.Forall2
import SwiftForms.Compile
import SwiftForms.Proofs.Compiler.Cached
import SwiftForms.Proofs.Library.Distinct
import SwiftForms.Proofs.Text.Bytes
import SwiftForms.Proofs.Text.Lines

/-!
# What a fingerprint tells of a library

The record of a library closes each of its parts by a zero byte and puts commas between parameters.
Where no part has a zero byte, the bytes of the record tell the runtime and, builtin by builtin, the
name, the target, the style, the implementation and the line of parameters. Where moreover no parameter
has a comma or stands alone and empty, they tell the library, so that libraries with the same
fingerprint are the same unless the digests of their records collide. A zero byte, a comma, and a
single empty parameter each make two libraries with one record.
-/

namespace SwiftForms

/-- A byte in two hexadecimal digits. -/
theorem Text.hexadecimal_two {n : Nat} (h : n < 256) :
    hexadecimal 2 n = [.char (n / 16).digitChar, .char (n % 16).digitChar] := by
  have hhigh : n / 16 < 16 := by omega
  by_cases hsmall : n < 16
  · have hzero : n / 16 = 0 := by omega
    have hself : n % 16 = n := by omega
    rw [hexadecimal, Nat.toDigits_of_lt_base hsmall, hzero, hself]
    rfl
  · have hdigits : Nat.toDigits 16 n = [(n / 16).digitChar, (n % 16).digitChar] := by
      rw [Nat.toDigits_of_base_le (by omega) (by omega), Nat.toDigits_of_lt_base hhigh]
      rfl
    rw [hexadecimal, hdigits]
    rfl

/-- The digits of base sixteen differ. -/
theorem Text.digitChar_inj {m n : Nat} (hm : m < 16) (hn : n < 16)
    (h : m.digitChar = n.digitChar) : m = n := by
  have hdiffer : ∀ m < 16, ∀ n < 16, m.digitChar = n.digitChar → m = n := by decide
  exact hdiffer m hm n hn h

/-- A byte string can be read off its hexadecimal digits. -/
theorem Text.flatMap_hexadecimal_inj {message other : List UInt8}
    (h : (message.flatMap fun b => hexadecimal 2 b.toNat) =
      other.flatMap fun b => hexadecimal 2 b.toNat) : message = other := by
  induction message generalizing other with
  | nil =>
    cases other with
    | nil => rfl
    | cons c more => simp [hexadecimal_two c.toNat_lt] at h
  | cons b rest ih =>
    cases other with
    | nil => simp [hexadecimal_two b.toNat_lt] at h
    | cons c more =>
      have hb := b.toNat_lt
      have hc := c.toNat_lt
      simp only [List.flatMap_cons, hexadecimal_two hb, hexadecimal_two hc, List.cons_append,
        List.nil_append, List.cons.injEq, Glyph.char.injEq] at h
      obtain ⟨hhigh, hlow, hrest⟩ := h
      have hhigh' := digitChar_inj (by omega) (by omega) hhigh
      have hlow' := digitChar_inj (by omega) (by omega) hlow
      have hsame : b.toNat = c.toNat := by omega
      rw [UInt8.toNat_inj.mp hsame, ih hrest]

/-- A number can be read off its digits. -/
theorem Text.ofNat_inj {m n : Nat} (h : ofNat m = ofNat n) : m = n := by
  have hdigits : Nat.toDigits 10 m = Nat.toDigits 10 n :=
    List.map_injective_iff.mpr (fun _ _ => Glyph.char.inj) h
  have hvalue := congrArg (Nat.ofDigitChars 10 · 0) hdigits
  simpa only [Nat.ofDigitChars_ten_toDigits] using hvalue

/-- The digits of a number are characters from `0` to `9`. -/
theorem Text.exists_of_mem_ofNat {n : Nat} {g : Glyph} (h : g ∈ ofNat n) :
    ∃ c : Char, g = .char c ∧ 48 ≤ c.toNat ∧ c.toNat ≤ 57 := by
  obtain ⟨c, hc, rfl⟩ := List.mem_map.mp h
  have hdigit : c.isDigit = true := Nat.isDigit_of_mem_toDigits (by omega) (by omega) hc
  have hbounds : 48 ≤ c.toNat ∧ c.toNat ≤ 57 := by
    simpa [Char.isDigit, UInt32.le_iff_toNat_le] using hdigit
  exact ⟨c, rfl, hbounds⟩

/-- The digits of a number have no sign among them. -/
theorem Text.minus_notMem_ofNat (n : Nat) : Glyph.char '-' ∉ ofNat n := by
  intro hmem
  obtain ⟨c, hc, hlow, -⟩ := exists_of_mem_ofNat hmem
  have hminus : c = '-' := (Glyph.char.inj hc).symm
  rw [hminus] at hlow
  exact absurd hlow (by decide)

/-- An integer can be read off its digits and sign. -/
theorem Text.ofInt_inj {m n : Int} (h : ofInt m = ofInt n) : m = n := by
  have hsign : ∀ m n : Nat, ofNat m ≠ .char '-' :: ofNat (n + 1) := by
    intro m n heq
    have hminus := minus_notMem_ofNat m
    rw [heq] at hminus
    exact hminus List.mem_cons_self
  cases m with
  | ofNat m =>
    cases n with
    | ofNat n => exact congrArg Int.ofNat (ofNat_inj h)
    | negSucc n => exact absurd h (hsign m n)
  | negSucc m =>
    cases n with
    | ofNat n => exact absurd h.symm (hsign n m)
    | negSucc n =>
      have hdigits : m + 1 = n + 1 := ofNat_inj (List.cons.inj h).2
      have hsame : m = n := by omega
      rw [hsame]

/-- The digits and sign of an integer are ASCII characters. -/
theorem Text.isAscii_of_mem_ofInt {n : Int} : ∀ g ∈ ofInt n, g.isAscii = true := by
  have hdigits : ∀ m, ∀ g ∈ ofNat m, g.isAscii = true := by
    intro m g hg
    obtain ⟨c, rfl, -, hhigh⟩ := exists_of_mem_ofNat hg
    exact decide_eq_true (by omega)
  cases n with
  | ofNat m => exact hdigits m
  | negSucc m => exact List.forall_mem_cons.mpr ⟨rfl, hdigits (m + 1)⟩

/-- The digits and sign of an integer have no zero byte. -/
theorem Text.zero_notMem_ofInt (n : Int) : 0 ∉ (ofInt n).bytes := by
  have hdigits : ∀ m, 0 ∉ (ofNat m).bytes := by
    intro m hmem
    obtain ⟨g, hg, hzero⟩ := List.mem_flatMap.mp hmem
    obtain ⟨c, rfl, hlow, hhigh⟩ := exists_of_mem_ofNat hg
    rw [Glyph.bytes_of_ascii (by omega), List.mem_singleton] at hzero
    have hvalue : (UInt8.ofNat c.toNat).toNat = c.toNat :=
      UInt8.toNat_ofNat_of_lt' (Nat.lt_of_le_of_lt hhigh (by decide))
    rw [← hzero] at hvalue
    have hnone : c.toNat = 0 := hvalue.symm
    omega
  cases n with
  | ofNat m => exact hdigits m
  | negSucc m =>
    have hsign : Glyph.bytes (.char '-') = [0x2D] := by decide
    rw [ofInt, bytes, List.flatMap_cons, hsign, List.singleton_append, List.mem_cons, not_or]
    exact ⟨by decide, hdigits (m + 1)⟩

/-- The texts that a line of comma-separated texts is taken for: no text gives the line that a single
empty one gives. -/
def Text.listed (params : List Text) : List Text :=
  if params = [] then [[]] else params

/-- A line of texts with a comma at its end is each of the texts with a comma at its end. -/
theorem Text.bytes_join_comma (params : List Text) :
    (join "," params).bytes ++ [0x2C] = ((listed params).map bytes).flatMap (· ++ [0x2C]) := by
  have hcomma : bytes (ofString ",") = [0x2C] := by decide
  induction params with
  | nil => rfl
  | cons t rest ih =>
    rw [listed, if_neg (List.cons_ne_nil t rest)]
    cases rest with
    | nil => simp only [join, List.map_cons, List.map_nil, List.flatMap_cons, List.flatMap_nil,
        List.append_nil]
    | cons u others =>
      rw [listed, if_neg (List.cons_ne_nil u others)] at ih
      rw [join_cons_cons, bytes_append, bytes_append, hcomma, List.append_assoc, ih]
      rfl

/-- Texts without commas can be read off the line of them, but for the empty line. -/
theorem Text.listed_eq_of_join {params others : List Text}
    (hparams : ∀ t ∈ params, t.IsDecoded ∧ 0x2C ∉ t.bytes)
    (hothers : ∀ t ∈ others, t.IsDecoded ∧ 0x2C ∉ t.bytes)
    (h : (join "," params).bytes = (join "," others).bytes) : listed params = listed others := by
  have hlisted : ∀ {texts : List Text}, (∀ t ∈ texts, t.IsDecoded ∧ 0x2C ∉ t.bytes) →
      ∀ t ∈ listed texts, t.IsDecoded ∧ 0x2C ∉ t.bytes := by
    intro texts htexts
    unfold listed
    split
    · exact List.forall_mem_singleton.mpr ⟨isDecoded_of_ascii (by simp), by decide⟩
    · exact htexts
  have hapart : ∀ {texts : List Text}, (∀ t ∈ texts, t.IsDecoded ∧ 0x2C ∉ t.bytes) →
      ∀ part ∈ (listed texts).map bytes, 0x2C ∉ part := by
    intro texts htexts part hpart
    obtain ⟨t, ht, rfl⟩ := List.mem_map.mp hpart
    exact (hlisted htexts t ht).2
  have hback : ∀ {texts : List Text}, (∀ t ∈ texts, t.IsDecoded ∧ 0x2C ∉ t.bytes) →
      ((listed texts).map bytes).map ofBytes = listed texts := by
    intro texts htexts
    have hself : ∀ t ∈ listed texts, (ofBytes ∘ bytes) t = t := fun t ht =>
      ofBytes_bytes (hlisted htexts t ht).1
    rw [List.map_map, List.map_congr_left hself, List.map_id']
  have hclosed := congrArg (· ++ [0x2C]) h
  simp only [bytes_join_comma] at hclosed
  have hsame := closed_inj (hapart hparams) (hapart hothers) hclosed
  rw [← hback hparams, hsame, hback hothers]

/-- Styles are told apart by their numbers. -/
theorem Style.number_inj {s t : Style} (h : s.number = t.number) : s = t := by
  have hback : ∀ s : Style, ofNumber s.number = s := by
    intro s
    cases s with
    | call => rfl
    | chain => rfl
    | comparison => rfl
    | other n beyond =>
      have hzero : n ≠ 0 := by omega
      have hone : n ≠ 1 := by omega
      have htwo : n ≠ 2 := by omega
      rw [number, ofNumber, if_neg hzero, if_neg hone, if_neg htwo, dif_pos beyond]
  rw [← hback s, h, hback t]

namespace Builtin

/-- The texts of a builtin. -/
def texts (b : Builtin) : List Text :=
  b.name :: b.target :: b.native :: b.params

/-- Two builtins agree in all but the division of their parameters. -/
structure SameParts (b c : Builtin) : Prop where
  /-- They have the same name. -/
  name : b.name = c.name
  /-- They have the same target. -/
  target : b.target = c.target
  /-- Their parameters, with commas between them, are the same. -/
  params : (Text.join "," b.params).bytes = (Text.join "," c.params).bytes
  /-- Their calls are written in the same style. -/
  style : b.style = c.style
  /-- They have the same implementation. -/
  native : b.native = c.native

/-- The byte strings that stand for a builtin in the record of a library. -/
def parts (b : Builtin) : List (List UInt8) :=
  [b.name.bytes, b.target.bytes, (Text.join "," b.params).bytes, (Text.ofInt b.style.number).bytes,
    b.native.bytes]

/-- The record of a builtin is its parts, each closed by a zero byte. -/
theorem bytes_recordOf (b : Builtin) :
    (Library.recordOf b).bytes = b.parts.flatMap (· ++ [0]) := by
  have hzero : Text.bytes [.char '\x00'] = [0] := by decide
  simp only [Library.recordOf, parts, List.flatMap_cons, List.flatMap_nil, Text.bytes_append, hzero]
  rfl

/-- Builtins with the same parts agree in all but the division of their parameters. -/
theorem parts_eq_iff {b c : Builtin} (hb : ∀ t ∈ b.texts, t.IsDecoded)
    (hc : ∀ t ∈ c.texts, t.IsDecoded) : b.parts = c.parts ↔ b.SameParts c := by
  simp only [texts, List.forall_mem_cons] at hb hc
  obtain ⟨hbname, hbtarget, hbnative, -⟩ := hb
  obtain ⟨hcname, hctarget, hcnative, -⟩ := hc
  have hnumber : (Text.ofInt b.style.number).bytes = (Text.ofInt c.style.number).bytes ↔
      b.style = c.style := by
    rw [Text.bytes_inj (Text.isDecoded_of_ascii Text.isAscii_of_mem_ofInt)
      (Text.isDecoded_of_ascii Text.isAscii_of_mem_ofInt)]
    exact ⟨fun h => Style.number_inj (Text.ofInt_inj h), fun h => by rw [h]⟩
  simp only [parts, List.cons.injEq, and_true, Text.bytes_inj hbname hcname,
    Text.bytes_inj hbtarget hctarget, Text.bytes_inj hbnative hcnative, hnumber]
  exact ⟨fun ⟨hname, htarget, hparams, hstyle, hnative⟩ =>
      ⟨hname, htarget, hparams, hstyle, hnative⟩,
    fun h => ⟨h.name, h.target, h.params, h.style, h.native⟩⟩

/-- Builtins have the same parts, one after another, if they agree one by one. -/
theorem flatMap_parts_eq_iff {builtins others : List Builtin}
    (hbuiltins : ∀ b ∈ builtins, ∀ t ∈ b.texts, t.IsDecoded)
    (hothers : ∀ c ∈ others, ∀ t ∈ c.texts, t.IsDecoded) :
    builtins.flatMap parts = others.flatMap parts ↔ List.Forall₂ SameParts builtins others := by
  induction builtins generalizing others with
  | nil =>
    cases others with
    | nil => simp
    | cons c more => simp [parts]
  | cons b rest ih =>
    cases others with
    | nil => simp [parts]
    | cons c more =>
      obtain ⟨hb, hrest⟩ := List.forall_mem_cons.mp hbuiltins
      obtain ⟨hc, hmore⟩ := List.forall_mem_cons.mp hothers
      rw [List.flatMap_cons, List.flatMap_cons, List.forall₂_cons, ← parts_eq_iff hb hc,
        ← ih hrest hmore]
      constructor
      · intro h
        exact List.append_inj h rfl
      · intro h
        rw [h.1, h.2]

/-- Whether the parameters of a builtin can be read off the line of them: none has a comma, and they
are not a single empty one. -/
def Listable (b : Builtin) : Prop :=
  b.params ≠ [[]] ∧ ∀ t ∈ b.params, 0x2C ∉ t.bytes

/-- Builtins that agree in all but the division of their parameters are the same if these can be read
off. -/
theorem SameParts.eq {b c : Builtin} (h : b.SameParts c) (hb : b.Listable) (hc : c.Listable)
    (hbtexts : ∀ t ∈ b.texts, t.IsDecoded) (hctexts : ∀ t ∈ c.texts, t.IsDecoded) : b = c := by
  simp only [texts, List.forall_mem_cons] at hbtexts hctexts
  have hlisted := Text.listed_eq_of_join (fun t ht => ⟨hbtexts.2.2.2 t ht, hb.2 t ht⟩)
    (fun t ht => ⟨hctexts.2.2.2 t ht, hc.2 t ht⟩) h.params
  have hparams : b.params = c.params := by
    have hbline := hb.1
    have hcline := hc.1
    unfold Text.listed at hlisted
    grind
  cases b
  cases c
  rw [Builtin.mk.injEq]
  exact ⟨h.name, h.target, hparams, h.native, h.style⟩

/-- Hence so are lists of such builtins. -/
theorem eq_of_sameParts {builtins others : List Builtin}
    (h : List.Forall₂ SameParts builtins others)
    (hbuiltins : ∀ b ∈ builtins, b.Listable ∧ ∀ t ∈ b.texts, t.IsDecoded)
    (hothers : ∀ c ∈ others, c.Listable ∧ ∀ t ∈ c.texts, t.IsDecoded) : builtins = others := by
  induction h with
  | nil => rfl
  | cons hfirst _ ih =>
    obtain ⟨hb, hrest⟩ := List.forall_mem_cons.mp hbuiltins
    obtain ⟨hc, hmore⟩ := List.forall_mem_cons.mp hothers
    rw [hfirst.eq hb.1 hc.1 hb.2 hc.2, ih hrest hmore]

end Builtin

/-- No two different messages of a list have the same digest. -/
def Digest.CollisionFree (messages : List (List UInt8)) : Prop :=
  ∀ m ∈ messages, ∀ n ∈ messages, sha256 m = sha256 n → m = n

namespace Library

/-- The texts of a library. -/
def texts (lib : Library) : List Text :=
  lib.runtime :: lib.builtins.flatMap Builtin.texts

/-- The texts of a library stand for byte strings without zero bytes. -/
structure Separable (lib : Library) : Prop where
  /-- They are what byte strings are taken as. -/
  decoded : ∀ t ∈ lib.texts, t.IsDecoded
  /-- There is no zero byte in them. -/
  noZero : ∀ t ∈ lib.texts, 0 ∉ t.bytes

/-- The record of a library is its parts, each closed by a zero byte. -/
theorem bytes_record (lib : Library) : lib.record.bytes =
    (lib.runtime.bytes :: lib.builtins.flatMap Builtin.parts).flatMap (· ++ [0]) := by
  have hzero : Text.bytes [.char '\x00'] = [0] := by decide
  have hbuiltins : ∀ builtins : List Builtin, Text.bytes (builtins.flatMap recordOf) =
      (builtins.flatMap Builtin.parts).flatMap (· ++ [0]) := by
    intro builtins
    induction builtins with
    | nil => rfl
    | cons b rest ih =>
      rw [List.flatMap_cons, Text.bytes_append, Builtin.bytes_recordOf, ih, List.flatMap_cons,
        List.flatMap_append]
  have hrecord : lib.record = lib.runtime ++ ([.char '\x00'] ++ lib.builtins.flatMap recordOf) := rfl
  rw [hrecord, Text.bytes_append, Text.bytes_append, hzero, hbuiltins, List.flatMap_cons,
    List.append_assoc]

namespace Separable

variable {a b : Library}

/-- The texts of each builtin stand for byte strings. -/
theorem decoded_builtin (h : a.Separable) : ∀ c ∈ a.builtins, ∀ t ∈ c.texts, t.IsDecoded := by
  intro c hc t ht
  exact h.decoded t (List.mem_cons_of_mem _ (List.mem_flatMap.mpr ⟨c, hc, ht⟩))

/-- No part of the record has a zero byte. -/
theorem zero_notMem (h : a.Separable) :
    ∀ part ∈ a.runtime.bytes :: a.builtins.flatMap Builtin.parts, 0 ∉ part := by
  refine List.forall_mem_cons.mpr ⟨h.noZero _ List.mem_cons_self, ?_⟩
  intro part hpart
  obtain ⟨c, hc, hmem⟩ := List.mem_flatMap.mp hpart
  have htexts : ∀ t ∈ c.texts, 0 ∉ t.bytes := by
    intro t ht
    exact h.noZero t (List.mem_cons_of_mem _ (List.mem_flatMap.mpr ⟨c, hc, ht⟩))
  simp only [Builtin.texts, List.forall_mem_cons] at htexts
  obtain ⟨hname, htarget, hnative, hparams⟩ := htexts
  have hline : 0 ∉ (Text.join "," c.params).bytes := by
    intro hzero
    obtain ⟨g, hg, hbyte⟩ := List.mem_flatMap.mp hzero
    rcases Text.mem_join hg with hcomma | ⟨t, ht, hmember⟩
    · have hnone : ∀ g ∈ Text.ofString ",", (0 : UInt8) ∉ g.bytes := by decide
      exact hnone g hcomma hbyte
    · exact hparams t ht (List.mem_flatMap.mpr ⟨g, hmember, hbyte⟩)
  simp only [Builtin.parts, List.mem_cons, List.not_mem_nil, or_false] at hmem
  rcases hmem with rfl | rfl | rfl | rfl | rfl
  · exact hname
  · exact htarget
  · exact hline
  · exact Text.zero_notMem_ofInt _
  · exact hnative

/-- The bytes of the record tell the runtime and the parts of the builtins. -/
theorem record_eq_iff (ha : a.Separable) (hb : b.Separable) : a.record.bytes = b.record.bytes ↔
    a.runtime = b.runtime ∧ List.Forall₂ Builtin.SameParts a.builtins b.builtins := by
  have hruntime := Text.bytes_inj (ha.decoded _ List.mem_cons_self) (hb.decoded _ List.mem_cons_self)
  have hbuiltins := Builtin.flatMap_parts_eq_iff ha.decoded_builtin hb.decoded_builtin
  rw [bytes_record, bytes_record, ← hruntime, ← hbuiltins]
  constructor
  · intro h
    exact List.cons.inj (Text.closed_inj ha.zero_notMem hb.zero_notMem h)
  · intro h
    rw [h.1, h.2]

/-- The bytes of the record tell the library if the parameters can be read off. -/
theorem eq_of_record (ha : a.Separable) (hb : b.Separable) (hla : ∀ c ∈ a.builtins, c.Listable)
    (hlb : ∀ c ∈ b.builtins, c.Listable) (h : a.record.bytes = b.record.bytes) : a = b := by
  obtain ⟨hruntime, hparts⟩ := (ha.record_eq_iff hb).mp h
  have hbuiltins := Builtin.eq_of_sameParts hparts (fun c hc => ⟨hla c hc, ha.decoded_builtin c hc⟩)
    (fun c hc => ⟨hlb c hc, hb.decoded_builtin c hc⟩)
  exact Library.eq_of_builtins hruntime hbuiltins

end Separable

/-- Where no text has a zero byte, the bytes of the records tell of any two libraries whether they have
the same runtime and the same builtins up to the division of parameters. Where also the parameters can
be read off, libraries with the same record are the same, and those with the same fingerprint are,
unless two of the records collide. -/
theorem record_tells {libs : List Library} (hseparable : ∀ lib ∈ libs, lib.Separable) :
    (∀ a ∈ libs, ∀ b ∈ libs, (a.record.bytes = b.record.bytes ↔
      a.runtime = b.runtime ∧ List.Forall₂ Builtin.SameParts a.builtins b.builtins)) ∧
    ((∀ lib ∈ libs, ∀ b ∈ lib.builtins, b.Listable) →
      (∀ a ∈ libs, ∀ b ∈ libs, a.record.bytes = b.record.bytes → a = b) ∧
      (Digest.CollisionFree (libs.map fun lib => lib.record.bytes) → Distinguished libs)) := by
  refine ⟨fun a ha b hb => (hseparable a ha).record_eq_iff (hseparable b hb), ?_⟩
  intro hlistable
  have htells : ∀ a ∈ libs, ∀ b ∈ libs, a.record.bytes = b.record.bytes → a = b := by
    intro a ha b hb
    exact (hseparable a ha).eq_of_record (hseparable b hb) (hlistable a ha) (hlistable b hb)
  refine ⟨htells, ?_⟩
  intro hfree a ha b hb hfingerprint
  have hdigest : Digest.sha256 a.record.bytes = Digest.sha256 b.record.bytes :=
    Text.flatMap_hexadecimal_inj hfingerprint
  exact htells a ha b hb
    (hfree _ (List.mem_map_of_mem ha) _ (List.mem_map_of_mem hb) hdigest)

/-- A library with one function of some parameters. -/
def calling (params : List Text) : Library :=
  .ofBuiltins [] [⟨"f", "f", params, [], .call⟩] rfl

/-- Two libraries that differ in the order of two parameters. -/
def reordered : List Library :=
  [calling ["a", "b"], calling ["b", "a"]]

/-- The libraries that differ in the order of two parameters are told apart. -/
theorem reordered_told :
    (∀ lib ∈ reordered, lib.Separable) ∧ (∀ lib ∈ reordered, ∀ b ∈ lib.builtins, b.Listable) ∧
      Digest.CollisionFree (reordered.map fun lib => lib.record.bytes) ∧ Distinguished reordered := by
  have hascii : ∀ lib ∈ reordered, ∀ t ∈ lib.texts, ∀ g ∈ t, g.isAscii = true := by decide
  have hzero : ∀ lib ∈ reordered, ∀ t ∈ lib.texts, 0 ∉ t.bytes := by decide
  have hseparable : ∀ lib ∈ reordered, lib.Separable := fun lib hlib =>
    ⟨fun t ht => Text.isDecoded_of_ascii (hascii lib hlib t ht), hzero lib hlib⟩
  have hlistable : ∀ lib ∈ reordered, ∀ b ∈ lib.builtins, b.Listable := by
    unfold Builtin.Listable
    decide
  have hfree : Digest.CollisionFree (reordered.map fun lib => lib.record.bytes) := by
    unfold Digest.CollisionFree
    decide +kernel
  exact ⟨hseparable, hlistable, hfree, ((record_tells hseparable).2 hlistable).2 hfree⟩

/-- Two libraries have one record, and a source compiles with the first of them only. -/
def Confused (a b : Library) (source : Text) : Prop :=
  a.record.bytes = b.record.bytes ∧ (compileBody a source).isOk = true ∧
    (compileBody b source).isOk = false

/-- A library without functions whose runtime is the record of one. -/
def recording : Library :=
  .ofBuiltins "\x00f\x00f\x00\x000\x00" [] rfl

/-- A comma in a parameter, a single empty parameter, and zero bytes in the runtime. -/
theorem confused_calling :
    Confused (calling ["a", "b"]) (calling ["a,b"]) "(f 1 2)" ∧
      Confused (calling []) (calling [[]]) "(f)" ∧ Confused (calling []) recording "(f)" := by
  have hpair : read "(f 1 2)" = .ok
      [.group .round [.leaf .atom "f" ⟨1, 1, 2⟩, .leaf .number "1" ⟨3, 1, 4⟩,
        .leaf .number "2" ⟨5, 1, 6⟩] ⟨0, 1, 1⟩] := by
    with_unfolding_all rfl
  have hnone : read "(f)" = .ok [.group .round [.leaf .atom "f" ⟨1, 1, 2⟩] ⟨0, 1, 1⟩] := by
    with_unfolding_all rfl
  simp only [Confused, compileBody, compileUnder, resolveSource, hpair, hnone]
  exact ⟨⟨by decide, rfl, rfl⟩, ⟨by decide, rfl, rfl⟩, ⟨by decide, rfl, rfl⟩⟩

end Library

end SwiftForms
