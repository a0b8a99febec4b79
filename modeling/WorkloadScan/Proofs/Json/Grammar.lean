import Mathlib.Computability.Language
import Mathlib.Data.List.TakeWhile
import WorkloadScan.Json.Reader

/-! The grammar of JSON, apart from any reader. Whatever is read is in it. -/
namespace WorkloadScan.Json
open Computability

namespace Grammar

/-! ### Tokens -/

def blanks : Language Char := {cs | ∀ c ∈ cs, c ∈ [' ', '\t', '\n', '\r']}

def digits : Language Char := {cs | cs ≠ [] ∧ ∀ c ∈ cs, c.isDigit = true}

/-- Digits without a needless zero in front. -/
def whole : Language Char := {cs | cs ∈ digits ∧ (cs.head? = some '0' → cs = ['0'])}

def fraction : Language Char := {['.']} * digits

def exponent : Language Char := ({['e']} + {['E']}) * (1 + {['+']} + {['-']}) * digits

def number : Language Char := (1 + {['-']}) * whole * (1 + fraction) * (1 + exponent)

def plainChar : Language Char :=
  {cs | ∃ c : Char, cs = [c] ∧ 0x20 ≤ c.toNat ∧ c ≠ '"' ∧ c ≠ '\\'}

def IsHexDigit (c : Char) : Prop :=
  c.isDigit = true ∨ ('a' ≤ c ∧ c ≤ 'f') ∨ ('A' ≤ c ∧ c ≤ 'F')

def hex4 : Language Char := {cs | cs.length = 4 ∧ ∀ c ∈ cs, IsHexDigit c}

def shortEscape : Language Char :=
  {cs | ∃ c ∈ ['"', '\\', '/', 'b', 'f', 'n', 'r', 't'], cs = ['\\', c]}

def escape : Language Char := shortEscape + {['\\', 'u']} * hex4

def characters : Language Char := (plainChar + escape)∗

def string : Language Char := {['"']} * characters * {['"']}

/-! ### Values -/

mutual

inductive IsValue : List Char → Prop
  | null : IsValue ['n', 'u', 'l', 'l']
  | true : IsValue ['t', 'r', 'u', 'e']
  | false : IsValue ['f', 'a', 'l', 's', 'e']
  | number {t : List Char} (h : t ∈ number) : IsValue t
  | string {t : List Char} (h : t ∈ string) : IsValue t
  | emptyArray {w : List Char} (h : w ∈ blanks) : IsValue ('[' :: w ++ [']'])
  | array {t : List Char} (h : IsElements t) : IsValue ('[' :: t ++ [']'])
  | emptyObject {w : List Char} (h : w ∈ blanks) : IsValue ('\x7b' :: w ++ ['\x7d'])
  | object {t : List Char} (h : IsMembers t) : IsValue ('\x7b' :: t ++ ['\x7d'])

/-- A value with white space around it. -/
inductive IsElement : List Char → Prop
  | mk {w t w' : List Char} (hw : w ∈ blanks) (h : IsValue t) (hw' : w' ∈ blanks) :
    IsElement (w ++ t ++ w')

inductive IsElements : List Char → Prop
  | one {t : List Char} (h : IsElement t) : IsElements t
  | more {t u : List Char} (h : IsElement t) (hrest : IsElements u) : IsElements (t ++ ',' :: u)

inductive IsMember : List Char → Prop
  | mk {w name w' t : List Char} (hw : w ∈ blanks) (hname : name ∈ string) (hw' : w' ∈ blanks)
    (h : IsElement t) : IsMember (w ++ name ++ w' ++ ':' :: t)

inductive IsMembers : List Char → Prop
  | one {t : List Char} (h : IsMember t) : IsMembers t
  | more {t u : List Char} (h : IsMember t) (hrest : IsMembers u) : IsMembers (t ++ ',' :: u)

end

end Grammar

open Grammar
variable {cs rest : List Char}

/-! ### What readers leave -/

section
variable {α β : Type} {o : Option (α × List Char)} {f : α → β} {x : α} {y : β} {tail : List Char}

theorem rest_eq {y : α} (h : some (x,tail) = some (y,rest)) : tail = rest :=
  (Prod.mk.inj (Option.some.inj h)).2

theorem exists_of_map (h : (o.map fun (x, tail) => (f x,tail)) = some (y,rest)) :
    ∃ x, o = some (x,rest) := by
  obtain ⟨⟨x, tail⟩, ho, heq⟩ := Option.map_eq_some_iff.mp h
  exact ⟨x, by rw [ho, (Prod.mk.inj heq).2]⟩

theorem exists_of_bind (h : (do let (x, tail) ← o; some (f x,tail)) = some (y,rest)) :
    ∃ x, o = some (x,rest) := by
  obtain ⟨⟨x, tail⟩, ho, heq⟩ := Option.bind_eq_some_iff.mp h
  exact ⟨x, by rw [ho, (Prod.mk.inj (Option.some.inj heq)).2]⟩

end

/-! ### What tokens are read from -/

theorem nil_mem_characters : [] ∈ characters := Language.nil_mem_kstar _

theorem append_mem_characters {t u : List Char} (ht : t ∈ characters) (hu : u ∈ characters) :
    t ++ u ∈ characters :=
  (kstar_mul_kstar (plainChar + escape)).le (Language.append_mem_mul ht hu)

theorem mem_characters_of_plainChar {t : List Char} (h : t ∈ plainChar) : t ∈ characters :=
  (le_kstar : _ ≤ (plainChar + escape)∗) (.inl h)

theorem mem_characters_of_escape {t : List Char} (h : t ∈ escape) : t ∈ characters :=
  (le_kstar : _ ≤ (plainChar + escape)∗) (.inr h)

theorem exists_blanks (cs : List Char) : ∃ w ∈ blanks, cs = w ++ skipSpace cs := by
  refine ⟨cs.takeWhile isSpace, ?_, List.takeWhile_append_dropWhile.symm⟩
  intro c hc
  simpa [isSpace, or_assoc] using List.mem_takeWhile_imp hc

theorem isHexDigit_of_hexDigit? {c : Char} {n : Nat} (h : Text.hexDigit? c = some n) :
    IsHexDigit c := by
  rw [Text.hexDigit?] at h
  split at h
  case isTrue hdigit => exact .inl hdigit
  case isFalse =>
    split at h
    case isTrue hlower => exact .inr (.inl (by simpa using hlower))
    case isFalse =>
      split at h
      case isTrue hupper => exact .inr (.inr (by simpa using hupper))
      case isFalse => cases h

theorem hex4_of_readHex4 {n : Nat} (h : readHex4 cs = some (n,rest)) :
    ∃ t ∈ hex4, cs = t ++ rest := by
  rw [readHex4.eq_def] at h
  split at h
  case h_1 a b c d tail =>
    simp only [Option.bind_eq_bind, Option.bind_eq_some_iff, Option.some.injEq,
      Prod.mk.injEq] at h
    obtain ⟨_, ha, _, hb, _, hc, _, hd, -, rfl⟩ := h
    refine ⟨[a, b, c, d], ⟨rfl, ?_⟩, rfl⟩
    simp [isHexDigit_of_hexDigit? ha, isHexDigit_of_hexDigit? hb, isHexDigit_of_hexDigit? hc,
      isHexDigit_of_hexDigit? hd]
  case h_2 => cases h

theorem mem_characters_of_hex4 {t : List Char} (h : t ∈ hex4) :
    '\\' :: 'u' :: t ∈ characters :=
  mem_characters_of_escape (.inr ⟨['\\', 'u'], rfl, t, h, rfl⟩)

theorem characters_of_readUnicode {c : Char} (h : readUnicode cs = some (c,rest)) :
    ∃ t, '\\' :: 'u' :: t ∈ characters ∧ cs = t ++ rest := by
  rw [readUnicode, Option.bind_eq_bind, Option.bind_eq_some_iff] at h
  obtain ⟨⟨unit, tail⟩, hunit, h⟩ := h
  obtain ⟨t, ht, rfl⟩ := hex4_of_readHex4 hunit
  have hone : '\\' :: 'u' :: t ∈ characters := mem_characters_of_hex4 ht
  simp only at h
  split at h
  case isTrue =>
    split at h
    case h_1 low =>
      rw [Option.bind_eq_some_iff] at h
      obtain ⟨⟨second, tail⟩, hsecond, h⟩ := h
      obtain ⟨u, hu, rfl⟩ := hex4_of_readHex4 hsecond
      have htwo := append_mem_characters hone (mem_characters_of_hex4 hu)
      simp only at h
      split at h
      case isTrue =>
        obtain rfl := rest_eq h
        exact ⟨t ++ '\\' :: 'u' :: u, by simpa using htwo, by simp⟩
      case isFalse => cases h
    case h_2 => cases h
  case isFalse =>
    split at h
    case isTrue => cases h
    case isFalse =>
      obtain rfl := rest_eq h
      exact ⟨t, hone, rfl⟩

theorem mem_characters_of_unescaped? {c d : Char} (h : unescaped? c = some d) :
    ['\\', c] ∈ characters := by
  refine mem_characters_of_escape (.inl ⟨c, ?_, rfl⟩)
  by_contra hc
  simp only [List.mem_cons, List.not_mem_nil, or_false, not_or] at hc
  simp [unescaped?, hc] at h

theorem characters_of_readChars {fuel : Nat} {s : List Char}
    (h : readChars fuel cs = some (s,rest)) : ∃ t ∈ characters, cs = t ++ '"' :: rest := by
  induction fuel generalizing cs s with
  | zero => cases h
  | succ fuel ih =>
    cases cs with
    | nil => cases h
    | cons c tail =>
      rw [readChars.eq_def] at h
      simp only at h
      split at h
      case isTrue hquote =>
        cases h
        exact ⟨[], nil_mem_characters, by rw [hquote]; rfl⟩
      case isFalse hquote =>
        split at h
        case isTrue hescape =>
          subst hescape
          cases tail with
          | nil => cases h
          | cons e tail =>
            simp only at h
            split at h
            case isTrue hunicode =>
              rw [Option.bind_eq_bind, Option.bind_eq_some_iff] at h
              obtain ⟨⟨d, tail⟩, hd, h⟩ := h
              obtain ⟨s', hrest⟩ := exists_of_bind h
              obtain ⟨t, ht, rfl⟩ := characters_of_readUnicode hd
              obtain ⟨u, hu, rfl⟩ := ih hrest
              exact ⟨_, append_mem_characters ht hu, by simp [hunicode]⟩
            case isFalse =>
              rw [Option.bind_eq_bind, Option.bind_eq_some_iff] at h
              obtain ⟨d, hd, h⟩ := h
              obtain ⟨s', hrest⟩ := exists_of_bind h
              obtain ⟨t, ht, rfl⟩ := ih hrest
              exact ⟨_, append_mem_characters (mem_characters_of_unescaped? hd) ht, by simp⟩
        case isFalse hescape =>
          split at h
          case isTrue => cases h
          case isFalse hcontrol =>
            obtain ⟨s', hrest⟩ := exists_of_bind h
            obtain ⟨t, ht, rfl⟩ := ih hrest
            have hplain : [c] ∈ plainChar := ⟨c, rfl, Nat.le_of_not_lt hcontrol, hquote, hescape⟩
            exact ⟨_, append_mem_characters (mem_characters_of_plainChar hplain) ht, by simp⟩

theorem string_of_readString {s : String} (h : readString cs = some (s,rest)) :
    ∃ t ∈ Grammar.string, '"' :: cs = t ++ rest := by
  obtain ⟨s', hread⟩ := exists_of_bind h
  obtain ⟨t, ht, rfl⟩ := characters_of_readChars hread
  exact ⟨['"'] ++ t ++ ['"'], ⟨['"'] ++ t, ⟨['"'], rfl, t, ht, rfl⟩, ['"'], rfl, rfl⟩, by simp⟩

/-! ### Numbers -/

theorem exists_digits (h : (cs.takeWhile Char.isDigit).isEmpty = false) :
    cs.takeWhile Char.isDigit ∈ digits ∧
      cs = cs.takeWhile Char.isDigit ++ cs.dropWhile Char.isDigit :=
  ⟨⟨by simpa using h, fun _ hc => List.mem_takeWhile_imp hc⟩,
    List.takeWhile_append_dropWhile.symm⟩

theorem whole_of_takeWhile
    (h : ¬((cs.takeWhile Char.isDigit).isEmpty || (cs.takeWhile Char.isDigit).head? == some '0' &&
      decide (1 < (cs.takeWhile Char.isDigit).length)) = true) :
    cs.takeWhile Char.isDigit ∈ whole ∧
      cs = cs.takeWhile Char.isDigit ++ cs.dropWhile Char.isDigit := by
  rw [Bool.or_eq_true, not_or, Bool.not_eq_true] at h
  obtain ⟨hds, hcut⟩ := exists_digits h.1
  refine ⟨⟨hds, fun hzero => ?_⟩, hcut⟩
  have hone : (cs.takeWhile Char.isDigit).length ≤ 1 := by simpa [hzero] using h.2
  obtain ⟨c, tail, heq⟩ := List.exists_cons_of_ne_nil hds.1
  rw [heq] at hzero hone ⊢
  have htail : tail = [] := List.eq_nil_of_length_eq_zero (by simpa using hone)
  rw [htail, Option.some.inj hzero]

theorem rest_eq_of_map {o : Option Numeral} {n : Numeral} {tail : List Char}
    (h : o.map (·,tail) = some (n,rest)) : tail = rest := by
  obtain ⟨_, -, heq⟩ := Option.map_eq_some_iff.mp h
  exact (Prod.mk.inj heq).2

theorem exponent_of_readExponent {power : Option Int} (h : readExponent cs = some (power,rest)) :
    ∃ t ∈ 1 + exponent, cs = t ++ rest := by
  have hnone : [] ∈ (1 + exponent : Language Char) := .inl rfl
  rw [readExponent.eq_def] at h
  split at h
  case h_2 =>
    cases h
    exact ⟨[], hnone, rfl⟩
  case h_1 e tail =>
    split at h
    case isFalse =>
      cases h
      exact ⟨[], hnone, rfl⟩
    case isTrue he =>
      have hletter : [e] ∈ ({['e']} + {['E']} : Language Char) := by
        rcases (by simpa using he : e = 'e' ∨ e = 'E') with rfl | rfl
        · exact .inl rfl
        · exact .inr rfl
      split at h
      case h_1 negative unsigned hsign =>
        obtain ⟨sign, hmem, rfl⟩ : ∃ sign ∈ (1 + {['+']} + {['-']} : Language Char),
            tail = sign ++ unsigned := by
          split at hsign
          case h_1 => exact ⟨['+'], .inl (.inr rfl), by simp_all⟩
          case h_2 => exact ⟨['-'], .inr rfl, by simp_all⟩
          case h_3 => exact ⟨[], .inl (.inl rfl), by simp_all⟩
        simp only at h
        split at h
        case isTrue => cases h
        case isFalse hdigits =>
          obtain ⟨hds, hcut⟩ := exists_digits (Bool.eq_false_iff.mpr hdigits)
          obtain rfl := rest_eq h
          refine ⟨[e] ++ sign ++ unsigned.takeWhile Char.isDigit, .inr ?_, ?_⟩
          · exact ⟨[e] ++ sign, ⟨[e], hletter, sign, hmem, rfl⟩, _, hds, rfl⟩
          · simp [List.takeWhile_append_dropWhile]

theorem number_of_readNumber {n : Numeral} (h : readNumber cs = some (n,rest)) :
    ∃ t ∈ Grammar.number, cs = t ++ rest := by
  unfold readNumber at h
  split at h
  case h_1 negative unsigned hsign =>
    obtain ⟨sign, hmem, rfl⟩ : ∃ sign ∈ (1 + {['-']} : Language Char), cs = sign ++ unsigned := by
      split at hsign
      case h_1 => exact ⟨['-'], .inr rfl, by simp_all⟩
      case h_2 => exact ⟨[], .inl rfl, by simp_all⟩
    simp only at h
    split at h
    case isTrue => cases h
    case isFalse hzero =>
      obtain ⟨hwhole, hcut⟩ := whole_of_takeWhile hzero
      obtain ⟨point, hpoint, tail, hsplit, power, hread⟩ : ∃ point ∈ 1 + fraction, ∃ tail,
          unsigned.dropWhile Char.isDigit = point ++ tail ∧
            ∃ power, readExponent tail = some (power,rest) := by
        split at h
        case h_1 tail hpoint =>
          split at h
          case isTrue => cases h
          case isFalse hdigits =>
            simp only [Option.bind_eq_bind, Option.bind_some, Option.bind_eq_some_iff] at h
            obtain ⟨⟨power, tail'⟩, hread, h⟩ := h
            obtain ⟨hds, hcut⟩ := exists_digits (Bool.eq_false_iff.mpr hdigits)
            refine ⟨'.' :: tail.takeWhile Char.isDigit, .inr ⟨['.'], rfl, _, hds, rfl⟩,
              tail.dropWhile Char.isDigit, ?_, power, ?_⟩
            · rw [hpoint, List.cons_append, ← hcut]
            · have hrest : tail' = rest := by split at h <;> exact rest_eq_of_map h
              rw [hread, hrest]
        case h_2 =>
          simp only [Option.bind_eq_bind, Option.bind_some, Option.bind_eq_some_iff] at h
          obtain ⟨⟨power, tail'⟩, hread, h⟩ := h
          refine ⟨[], .inl rfl, _, rfl, power, ?_⟩
          have hrest : tail' = rest := by split at h <;> exact rest_eq_of_map h
          rw [hread, hrest]
      obtain ⟨exp, hexp, rfl⟩ := exponent_of_readExponent hread
      refine ⟨sign ++ unsigned.takeWhile Char.isDigit ++ point ++ exp, ?_, ?_⟩
      · exact ⟨_, ⟨_, ⟨sign, hmem, _, hwhole, rfl⟩, point, hpoint, rfl⟩, exp, hexp, rfl⟩
      · conv_lhs => rw [hcut, hsplit]
        simp

/-! ### Values -/

theorem eq_append_of_dropWord {word : List Char} (h : dropWord word cs = some rest) :
    cs = word ++ rest := by
  induction word generalizing cs with
  | nil => exact Option.some.inj h
  | cons w word ih =>
    cases cs with
    | nil => cases h
    | cons c cs =>
      rw [dropWord] at h
      split at h
      case isTrue hw => rw [hw, ih h, List.cons_append]
      case isFalse => cases h

theorem append_mem_blanks {w w' : List Char} (hw : w ∈ blanks) (hw' : w' ∈ blanks) :
    w ++ w' ∈ blanks := List.forall_mem_append.mpr ⟨hw, hw'⟩

theorem isElement_blanks {w t : List Char} (hw : w ∈ blanks) (h : IsElement t) :
    IsElement (w ++ t) := by
  obtain ⟨hw', ht, hw''⟩ := h
  rw [List.append_assoc, ← List.append_assoc, ← List.append_assoc]
  exact .mk (append_mem_blanks hw hw') ht hw''

theorem isElements_blanks {w t : List Char} (hw : w ∈ blanks) (h : IsElements t) :
    IsElements (w ++ t) := by
  cases h with
  | one h => exact .one (isElement_blanks hw h)
  | more h hrest =>
    rw [← List.append_assoc]
    exact .more (isElement_blanks hw h) hrest

theorem isMember_blanks {w t : List Char} (hw : w ∈ blanks) (h : IsMember t) :
    IsMember (w ++ t) := by
  obtain ⟨hw', hname, hw'', h⟩ := h
  simp only [List.append_assoc]
  rw [← List.append_assoc w, ← List.append_assoc, ← List.append_assoc]
  exact .mk (append_mem_blanks hw hw') hname hw'' h

theorem isMembers_blanks {w t : List Char} (hw : w ∈ blanks) (h : IsMembers t) :
    IsMembers (w ++ t) := by
  cases h with
  | one h => exact .one (isMember_blanks hw h)
  | more h hrest =>
    rw [← List.append_assoc]
    exact .more (isMember_blanks hw h) hrest

/-- What is read with so much fuel is in the grammar. -/
structure ReadsGrammar (fuel : Nat) : Prop where
  value : ∀ {cs j rest}, readValue fuel cs = some (j,rest) →
    ∃ w ∈ blanks, ∃ t, IsValue t ∧ cs = w ++ t ++ rest
  items : ∀ {cs items rest}, readItems fuel cs = some (items,rest) →
    ∃ t, IsElements t ∧ cs = t ++ ']' :: rest
  fields : ∀ {cs fields rest}, readFields fuel cs = some (fields,rest) →
    ∃ t, IsMembers t ∧ cs = t ++ '\x7d' :: rest

namespace ReadsGrammar
variable {fuel : Nat}

theorem element (hr : ReadsGrammar fuel) {j : Json} (h : readValue fuel cs = some (j,rest)) :
    ∃ t, IsElement t ∧ cs = t ++ skipSpace rest := by
  obtain ⟨w, hw, t, ht, rfl⟩ := hr.value h
  obtain ⟨w', hw', hcut⟩ := exists_blanks rest
  refine ⟨w ++ t ++ w', .mk hw ht hw', ?_⟩
  conv_lhs => rw [hcut]
  simp

theorem object (hr : ReadsGrammar fuel) {j : Json}
    (h : (match skipSpace cs with
      | '\x7d' :: rest => some (Json.object [],rest)
      | rest => (readFields fuel rest).map fun (fields, rest) => (Json.object fields,rest)) =
        some (j,rest)) :
    ∃ t, IsValue t ∧ '\x7b' :: cs = t ++ rest := by
  obtain ⟨w, hw, hcut⟩ := exists_blanks cs
  split at h
  case h_1 tail hend =>
    obtain rfl := rest_eq h
    rw [hend] at hcut
    exact ⟨_, .emptyObject hw, by simp [hcut]⟩
  case h_2 =>
    obtain ⟨fields, hread⟩ := exists_of_map h
    obtain ⟨t, ht, heq⟩ := hr.fields hread
    rw [heq] at hcut
    exact ⟨_, .object (isMembers_blanks hw ht), by simp [hcut]⟩

theorem array (hr : ReadsGrammar fuel) {j : Json}
    (h : (match skipSpace cs with
      | ']' :: rest => some (Json.array [],rest)
      | rest => (readItems fuel rest).map fun (items, rest) => (Json.array items,rest)) =
        some (j,rest)) :
    ∃ t, IsValue t ∧ '[' :: cs = t ++ rest := by
  obtain ⟨w, hw, hcut⟩ := exists_blanks cs
  split at h
  case h_1 tail hend =>
    obtain rfl := rest_eq h
    rw [hend] at hcut
    exact ⟨_, .emptyArray hw, by simp [hcut]⟩
  case h_2 =>
    obtain ⟨items, hread⟩ := exists_of_map h
    obtain ⟨t, ht, heq⟩ := hr.items hread
    rw [heq] at hcut
    exact ⟨_, .array (isElements_blanks hw ht), by simp [hcut]⟩

theorem word {j j' : Json} {w : List Char} (hw : IsValue w) {word : List Char} {c : Char}
    (hword : c :: word = w) (h : (dropWord word cs).map (j',·) = some (j,rest)) :
    ∃ t, IsValue t ∧ c :: cs = t ++ rest := by
  simp only [Option.map_eq_some_iff, Prod.mk.injEq] at h
  obtain ⟨_, hdrop, -, rfl⟩ := h
  exact ⟨w, hw, by rw [eq_append_of_dropWord hdrop, ← hword, List.cons_append]⟩

theorem step_value (hr : ReadsGrammar fuel) {j : Json}
    (h : readValue (fuel + 1) cs = some (j,rest)) :
    ∃ w ∈ blanks, ∃ t, IsValue t ∧ cs = w ++ t ++ rest := by
  obtain ⟨w, hw, hcut⟩ := exists_blanks cs
  suffices hvalue : ∃ t, IsValue t ∧ skipSpace cs = t ++ rest by
    obtain ⟨t, ht, hskip⟩ := hvalue
    refine ⟨w, hw, t, ht, ?_⟩
    rw [List.append_assoc, ← hskip, ← hcut]
  rw [readValue] at h
  split at h
  case h_1 => cases h
  case h_2 c tail hskip =>
    rw [hskip]
    split_ifs at h with hstring hobject harray htrue hfalse hnull
    · obtain ⟨s, hread⟩ := exists_of_map h
      obtain ⟨t, ht, heq⟩ := string_of_readString hread
      exact ⟨t, .string ht, by rw [hstring, heq]⟩
    · subst hobject
      exact hr.object h
    · subst harray
      exact hr.array h
    · exact word .true (by rw [htrue]; rfl) h
    · exact word .false (by rw [hfalse]; rfl) h
    · exact word .null (by rw [hnull]; rfl) h
    · obtain ⟨n, hread⟩ := exists_of_map h
      obtain ⟨t, ht, heq⟩ := number_of_readNumber hread
      exact ⟨t, .number ht, heq⟩

theorem step_items (hr : ReadsGrammar fuel) {items : List Json}
    (h : readItems (fuel + 1) cs = some (items,rest)) :
    ∃ t, IsElements t ∧ cs = t ++ ']' :: rest := by
  rw [readItems, Option.bind_eq_bind, Option.bind_eq_some_iff] at h
  obtain ⟨⟨v, tail⟩, hread, h⟩ := h
  obtain ⟨t, ht, rfl⟩ := hr.element hread
  simp only at h
  split at h
  case h_1 tail hcomma =>
    obtain ⟨vs, hitems⟩ := exists_of_bind h
    obtain ⟨u, hu, rfl⟩ := hr.items hitems
    exact ⟨_, .more ht hu, by simp [hcomma]⟩
  case h_2 tail hend =>
    obtain rfl := rest_eq h
    exact ⟨t, .one ht, by rw [hend]⟩
  case h_3 => cases h

theorem step_fields (hr : ReadsGrammar fuel) {fields : List (String × Json)}
    (h : readFields (fuel + 1) cs = some (fields,rest)) :
    ∃ t, IsMembers t ∧ cs = t ++ '\x7d' :: rest := by
  obtain ⟨w, hw, hcut⟩ := exists_blanks cs
  rw [readFields] at h
  split at h
  case h_2 => cases h
  case h_1 tail hquote =>
    rw [Option.bind_eq_bind, Option.bind_eq_some_iff] at h
    obtain ⟨⟨name, tail⟩, hname, h⟩ := h
    obtain ⟨s, hs, heq⟩ := string_of_readString hname
    obtain ⟨w', hw', hcut'⟩ := exists_blanks tail
    simp only at h
    split at h
    case h_2 => cases h
    case h_1 tail hcolon =>
      rw [Option.bind_eq_bind, Option.bind_eq_some_iff] at h
      obtain ⟨⟨v, tail⟩, hread, h⟩ := h
      obtain ⟨t, ht, rfl⟩ := hr.element hread
      have hmember := IsMember.mk hw hs hw' ht
      have hcs : cs = (w ++ s ++ w' ++ ':' :: t) ++ skipSpace tail := by
        rw [hcut, hquote, heq, hcut', hcolon]
        simp
      simp only at h
      split at h
      case h_1 tail hcomma =>
        obtain ⟨members, hfields⟩ := exists_of_bind h
        obtain ⟨u, hu, rfl⟩ := hr.fields hfields
        exact ⟨_, .more hmember hu, by simp [hcs, hcomma]⟩
      case h_2 tail hend =>
        obtain rfl := rest_eq h
        exact ⟨_, .one hmember, by rw [hcs, hend]⟩
      case h_3 => cases h

end ReadsGrammar

theorem readsGrammar (fuel : Nat) : ReadsGrammar fuel := by
  induction fuel with
  | zero => exact ⟨nofun, nofun, nofun⟩
  | succ fuel ih => exact ⟨ih.step_value, ih.step_items, ih.step_fields⟩

/-- A text of JSON is one element. -/
def IsText (s : String) : Prop := IsElement s.toList

theorem isText_of_read? {s : String} {j : Json} (h : read? s = some j) : IsText s := by
  rw [read?, readChars?, Option.bind_eq_bind, Option.bind_eq_some_iff] at h
  obtain ⟨⟨v, tail⟩, hread, h⟩ := h
  obtain ⟨t, ht, heq⟩ := (readsGrammar _).element hread
  simp only at h
  split at h
  case isTrue hend =>
    rw [List.isEmpty_iff.mp hend, List.append_nil] at heq
    rwa [IsText, heq]
  case isFalse => cases h

end WorkloadScan.Json
