import Mathlib.Tactic.SplitIfs
import WorkloadScan.Json.Reader
import WorkloadScan.Json.Writer

/-! Values without numbers are read back from their compact text. -/
namespace WorkloadScan.Json
variable {cs rest : List Char} {fuel : Nat} {j : Json}

/-! ### Strings -/

theorem hexDigit?_digitChar : ∀ n < 16, Text.hexDigit? (Nat.digitChar n) = some n := by
  decide

theorem readUnicode_control {c : Char} (h : c.toNat < 0x20) (rest : List Char) :
    readUnicode ('0' :: '0' :: Nat.digitChar (c.toNat / 16) :: Nat.digitChar (c.toNat % 16) :: rest) =
      some (c,rest) := by
  have hzero : Text.hexDigit? '0' = some 0 := rfl
  have hhigh := hexDigit?_digitChar (c.toNat / 16) (by omega)
  have hlow := hexDigit?_digitChar (c.toNat % 16) (by omega)
  have hunit : c.toNat / 16 * 16 + c.toNat % 16 = c.toNat := by omega
  have hplain : c.toNat < 0xd800 := by omega
  simp only [readUnicode, readHex4, hzero, hhigh, hlow, Option.bind_eq_bind, Option.bind_some,
    Nat.zero_mul, Nat.zero_add, hunit]
  rw [if_neg (by simp; omega), if_neg (by simp; omega), Char.ofNat_toNat]

theorem readChars_short {c e : Char} (h : unescaped? e = some c) (fuel : Nat) (rest : List Char) :
    readChars (fuel + 1) ('\\' :: e :: rest) =
      (do let (s, rest) ← readChars fuel rest; some (c :: s,rest)) := by
  have hu : e ≠ 'u' := by
    rintro rfl
    cases h
  simp [readChars, hu, h]

theorem readChars_unicode {c : Char} (h : readUnicode cs = some (c,rest)) (fuel : Nat) :
    readChars (fuel + 1) ('\\' :: 'u' :: cs) =
      (do let (s, rest) ← readChars fuel rest; some (c :: s,rest)) := by
  simp [readChars, h]

theorem readChars_plain {c : Char} (hquote : c ≠ '"') (hslash : c ≠ '\\')
    (hcontrol : ¬c.toNat < 0x20) (fuel : Nat) (rest : List Char) :
    readChars (fuel + 1) (c :: rest) =
      (do let (s, rest) ← readChars fuel rest; some (c :: s,rest)) := by
  simp [readChars, hquote, hslash, hcontrol]

theorem readChars_escapedChar (fuel : Nat) (c : Char) (rest : List Char) :
    readChars (fuel + 1) (escapedChar c ++ rest) =
      (do let (s, rest) ← readChars fuel rest; some (c :: s,rest)) := by
  unfold escapedChar
  split_ifs with hquote hslash hbackspace htab hnewline hfeed hreturn hcontrol
  · exact readChars_short (by rw [hquote]; rfl) fuel rest
  · exact readChars_short (by rw [hslash]; rfl) fuel rest
  · exact readChars_short (by rw [hbackspace]; rfl) fuel rest
  · exact readChars_short (by rw [htab]; rfl) fuel rest
  · exact readChars_short (by rw [hnewline]; rfl) fuel rest
  · exact readChars_short (by rw [hfeed]; rfl) fuel rest
  · exact readChars_short (by rw [hreturn]; rfl) fuel rest
  · exact readChars_unicode (readUnicode_control hcontrol rest) fuel
  · exact readChars_plain hquote hslash hcontrol fuel rest

theorem readChars_flatMap {s : List Char} (h : s.length < fuel) (rest : List Char) :
    readChars fuel (s.flatMap escapedChar ++ '"' :: rest) = some (s,rest) := by
  induction s generalizing fuel with
  | nil =>
    obtain ⟨fuel, rfl⟩ := Nat.exists_eq_succ_of_ne_zero (Nat.ne_of_gt h)
    rfl
  | cons c s ih =>
    obtain ⟨fuel, rfl⟩ := Nat.exists_eq_succ_of_ne_zero (Nat.ne_of_gt (Nat.zero_lt_of_lt h))
    rw [List.flatMap_cons, List.append_assoc, readChars_escapedChar,
      ih (Nat.lt_of_succ_lt_succ h)]
    rfl

theorem length_le_flatMap (s : List Char) : s.length ≤ (s.flatMap escapedChar).length := by
  have hpos (c : Char) : 1 ≤ (escapedChar c).length := by
    unfold escapedChar
    split_ifs <;> simp
  induction s with
  | nil => simp
  | cons c s ih =>
    rw [List.flatMap_cons, List.length_append, List.length_cons]
    have := hpos c
    omega

theorem readString_writeString (s : String) (rest : List Char) :
    readString (s.toList.flatMap escapedChar ++ '"' :: rest) = some (s,rest) := by
  have hlength := length_le_flatMap s.toList
  have hfuel : s.toList.length < (s.toList.flatMap escapedChar ++ '"' :: rest).length := by
    rw [List.length_append, List.length_cons]
    omega
  rw [readString, readChars_flatMap hfuel, Option.bind_eq_bind, Option.bind_some]
  simp only [String.ofList_toList]

/-! ### Values -/

inductive IsNumberFree : Json → Prop
  | null : IsNumberFree .null
  | bool (b : Bool) : IsNumberFree (.bool b)
  | string (s : String) : IsNumberFree (.string s)
  | array {items : List Json} (h : ∀ v ∈ items, IsNumberFree v) : IsNumberFree (.array items)
  | object {fields : List (String × Json)} (h : ∀ f ∈ fields, IsNumberFree f.2) :
    IsNumberFree (.object fields)

/-- The text of a value is read as the value, whatever comes after it. -/
def IsReadBack (j : Json) : Prop :=
  ∀ fuel rest, (write j).length ≤ fuel → readValue fuel (write j ++ rest) = some (j,rest)

theorem skipSpace_cons {c : Char} (h : isSpace c = false) (cs : List Char) :
    skipSpace (c :: cs) = c :: cs := by
  simp [skipSpace, h]

theorem IsNumberFree.exists_head (h : IsNumberFree j) :
    ∃ c cs, write j = c :: cs ∧ isSpace c = false ∧ c ≠ ']' := by
  cases h with
  | null => exact ⟨_, _, by rw [write]; rfl, by decide, by decide⟩
  | bool b => cases b <;> exact ⟨_, _, by rw [write]; rfl, by decide, by decide⟩
  | string s => exact ⟨_, _, by rw [write, writeString], by decide, by decide⟩
  | array => exact ⟨_, _, by rw [write], by decide, by decide⟩
  | object => exact ⟨_, _, by rw [write], by decide, by decide⟩

theorem readItems_last {v : Json} (h : readValue fuel cs = some (v,']' :: rest)) :
    readItems (fuel + 1) cs = some ([v],rest) := by
  have hskip : skipSpace (']' :: rest) = ']' :: rest := skipSpace_cons rfl rest
  simp [readItems, h, hskip]

theorem readItems_more {v : Json} (h : readValue fuel cs = some (v,',' :: rest)) :
    readItems (fuel + 1) cs =
      (do let (vs, rest) ← readItems fuel rest; some (v :: vs,rest)) := by
  have hskip : skipSpace (',' :: rest) = ',' :: rest := skipSpace_cons rfl rest
  simp [readItems, h, hskip]

theorem readItems_writeItems {items : List Json} (hne : items ≠ [])
    (h : ∀ v ∈ items, IsReadBack v) (hfuel : (writeItems items).length ≤ fuel)
    (rest : List Char) : readItems fuel (writeItems items ++ rest) = some (items,rest) := by
  induction items generalizing fuel with
  | nil => exact absurd rfl hne
  | cons v items ih =>
    obtain ⟨hv, hitems⟩ := List.forall_mem_cons.mp h
    cases items with
    | nil =>
      simp only [writeItems, List.length_append, List.length_singleton] at hfuel
      obtain ⟨fuel, rfl⟩ := Nat.exists_eq_add_of_le' (Nat.le_of_add_left_le hfuel)
      have hread := hv fuel (']' :: rest) (by omega)
      rw [writeItems, List.append_assoc]
      exact readItems_last hread
    | cons w items =>
      simp only [writeItems, List.length_append, List.length_cons] at hfuel
      obtain ⟨fuel, rfl⟩ := Nat.exists_eq_add_of_le' (show 1 ≤ fuel by omega)
      have hread := hv fuel (',' :: (writeItems (w :: items) ++ rest)) (by omega)
      rw [writeItems, List.append_assoc, List.cons_append, readItems_more hread,
        ih (by simp) hitems (by omega)]
      · rfl
      · simp

theorem readFields_last (name : String) {v : Json}
    (h : readValue fuel cs = some (v,'\x7d' :: rest)) :
    readFields (fuel + 1) (writeString name ++ ':' :: cs) = some ([(name,v)],rest) := by
  have hskip : skipSpace ('\x7d' :: rest) = '\x7d' :: rest := skipSpace_cons rfl rest
  have hcolon : skipSpace (':' :: cs) = ':' :: cs := skipSpace_cons rfl cs
  have hquote (cs : List Char) : skipSpace ('"' :: cs) = '"' :: cs := skipSpace_cons rfl cs
  simp [readFields, writeString, hquote, readString_writeString, hcolon, h, hskip]

theorem readFields_more (name : String) {v : Json}
    (h : readValue fuel cs = some (v,',' :: rest)) :
    readFields (fuel + 1) (writeString name ++ ':' :: cs) =
      (do let (fields, rest) ← readFields fuel rest; some ((name,v) :: fields,rest)) := by
  have hskip : skipSpace (',' :: rest) = ',' :: rest := skipSpace_cons rfl rest
  have hcolon : skipSpace (':' :: cs) = ':' :: cs := skipSpace_cons rfl cs
  have hquote (cs : List Char) : skipSpace ('"' :: cs) = '"' :: cs := skipSpace_cons rfl cs
  simp [readFields, writeString, hquote, readString_writeString, hcolon, h, hskip]

theorem readFields_writeFields {fields : List (String × Json)} (hne : fields ≠ [])
    (h : ∀ f ∈ fields, IsReadBack f.2) (hfuel : (writeFields fields).length ≤ fuel)
    (rest : List Char) : readFields fuel (writeFields fields ++ rest) = some (fields,rest) := by
  induction fields generalizing fuel with
  | nil => exact absurd rfl hne
  | cons f fields ih =>
    obtain ⟨name, v⟩ := f
    obtain ⟨hv, hfields⟩ : IsReadBack v ∧ ∀ f ∈ fields, IsReadBack f.2 :=
      List.forall_mem_cons.mp h
    cases fields with
    | nil =>
      simp only [writeFields, List.length_append, List.length_cons, List.length_nil] at hfuel
      obtain ⟨fuel, rfl⟩ := Nat.exists_eq_add_of_le' (show 1 ≤ fuel by omega)
      have hread := hv fuel ('\x7d' :: rest) (by omega)
      have hlast := readFields_last name hread
      simpa [writeFields] using hlast
    | cons g fields =>
      simp only [writeFields, List.length_append, List.length_cons] at hfuel
      obtain ⟨fuel, rfl⟩ := Nat.exists_eq_add_of_le' (show 1 ≤ fuel by omega)
      have hread := hv fuel (',' :: (writeFields (g :: fields) ++ rest)) (by omega)
      have hmore := readFields_more name hread
      rw [ih (by simp) hfields (by omega)] at hmore
      simpa [writeFields] using hmore

theorem readValue_items {c : Char} (hspace : isSpace c = false) (hc : c ≠ ']') (fuel : Nat)
    (cs : List Char) :
    readValue (fuel + 1) ('[' :: c :: cs) =
      (readItems fuel (c :: cs)).map fun (items, rest) => (.array items,rest) := by
  rw [readValue, skipSpace_cons rfl]
  simp [skipSpace_cons hspace, hc]

theorem readValue_fields (fuel : Nat) (name : String) (cs : List Char) :
    readValue (fuel + 1) ('\x7b' :: (writeString name ++ cs)) =
      (readFields fuel (writeString name ++ cs)).map fun (fields, rest) =>
        (.object fields,rest) := by
  have hquote (cs : List Char) : skipSpace ('"' :: cs) = '"' :: cs := skipSpace_cons rfl cs
  rw [readValue, skipSpace_cons rfl]
  simp [writeString, hquote]

theorem isReadBack_of_succ (hfree : IsNumberFree j)
    (h : ∀ fuel rest, (write j).length ≤ fuel + 1 →
      readValue (fuel + 1) (write j ++ rest) = some (j,rest)) : IsReadBack j := by
  intro fuel rest hfuel
  cases fuel with
  | zero =>
    obtain ⟨c, cs, hhead, -, -⟩ := hfree.exists_head
    simp [hhead] at hfuel
  | succ fuel => exact h fuel rest hfuel

theorem isReadBack_array {items : List Json} (hfree : ∀ v ∈ items, IsNumberFree v)
    (h : ∀ v ∈ items, IsReadBack v) : IsReadBack (.array items) := by
  refine isReadBack_of_succ (.array hfree) fun fuel rest hfuel => ?_
  rw [write, List.length_cons] at hfuel
  rw [write, List.cons_append]
  cases items with
  | nil => rfl
  | cons v items =>
    obtain ⟨c, cs, hhead, hspace, hc⟩ := (hfree v List.mem_cons_self).exists_head
    have hread := readItems_writeItems (by simp) h (Nat.le_of_succ_le_succ hfuel) rest
    obtain ⟨tail, htail⟩ : ∃ tail, writeItems (v :: items) ++ rest = c :: tail := by
      cases items <;> simp [writeItems, hhead]
    rw [htail] at hread ⊢
    rw [readValue_items hspace hc, hread]
    rfl

theorem isReadBack_object {fields : List (String × Json)}
    (hfree : ∀ f ∈ fields, IsNumberFree f.2) (h : ∀ f ∈ fields, IsReadBack f.2) :
    IsReadBack (.object fields) := by
  refine isReadBack_of_succ (.object hfree) fun fuel rest hfuel => ?_
  rw [write, List.length_cons] at hfuel
  rw [write, List.cons_append]
  cases fields with
  | nil => rfl
  | cons f fields =>
    have hread := readFields_writeFields (by simp) h (Nat.le_of_succ_le_succ hfuel) rest
    obtain ⟨tail, htail⟩ : ∃ tail, writeFields (f :: fields) ++ rest = writeString f.1 ++ tail := by
      cases fields <;> simp [writeFields]
    rw [htail] at hread ⊢
    rw [readValue_fields, hread]
    rfl

theorem IsNumberFree.isReadBack (h : IsNumberFree j) : IsReadBack j := by
  induction h with
  | null => exact isReadBack_of_succ .null fun fuel rest _ => by rw [write]; rfl
  | bool b =>
    refine isReadBack_of_succ (.bool b) fun fuel rest _ => ?_
    cases b <;> (rw [write]; rfl)
  | string s =>
    refine isReadBack_of_succ (.string s) fun fuel rest _ => ?_
    rw [write, writeString, List.cons_append, List.append_assoc, readValue, skipSpace_cons rfl]
    simp [readString_writeString]
  | array hfree ih => exact isReadBack_array hfree ih
  | object hfree ih => exact isReadBack_object hfree ih

theorem read?_compact (h : IsNumberFree j) : read? j.compact = some j := by
  have hread := h.isReadBack (2 * (write j).length + 1) [] (by omega)
  rw [List.append_nil] at hread
  rw [read?, compact, String.toList_ofList, readChars?, hread]
  rfl

end WorkloadScan.Json
