/-
JSON texts and their lengths.

`Json.render` is the compact text of a value: no blanks, integers in decimal, strings with the short escapes. `Json.size` is
its length in bytes, by recursion over the value (`utf8ByteSize_render`), so that the length of a text is the sum of what
its parts contribute.
-/
import Mathlib.Tactic
import Mathlib.Data.Nat.Digits.Defs

namespace Kaleido

/-- a JSON value; the fields of an object stand in the order they are written in -/
inductive Json where
  | null
  | bool (b : Bool)
  | num (n : Int)
  | str (s : String)
  | arr (items : List Json)
  | obj (fields : List (String × Json))

namespace Json

/-- a control character without a short escape: `\u00` and two hexadecimal digits -/
def unicodeEscape (n : Nat) : String := "\\u00" ++ String.ofList [Nat.digitChar (n / 16), Nat.digitChar (n % 16)]

/-- one character inside a string -/
def escapeChar (c : Char) : String :=
  if c = '"' then "\\\""
  else if c = '\\' then "\\\\"
  else if c.toNat = 8 then "\\b"
  else if c.toNat = 9 then "\\t"
  else if c.toNat = 10 then "\\n"
  else if c.toNat = 12 then "\\f"
  else if c.toNat = 13 then "\\r"
  else if c.toNat < 32 then unicodeEscape c.toNat
  else String.singleton c

def escape : List Char → String
  | [] => ""
  | c :: rest => escapeChar c ++ escape rest

/-- a string with its quotes -/
def quote (s : String) : String := "\"" ++ escape s.toList ++ "\""

mutual

/-- the compact text of a value -/
def render : Json → String
  | null => "null"
  | bool b => if b then "true" else "false"
  | num n => toString n
  | str s => quote s
  | arr [] => "[]"
  | arr (item :: rest) => "[" ++ (render item ++ (renderItems rest ++ "]"))
  | obj [] => "\x7b\x7d"
  | obj ((key, value) :: rest) => "\x7b" ++ (quote key ++ (":" ++ (render value ++ (renderFields rest ++ "\x7d"))))

/-- the items after the first one -/
def renderItems : List Json → String
  | [] => ""
  | item :: rest => "," ++ (render item ++ renderItems rest)

/-- the fields after the first one -/
def renderFields : List (String × Json) → String
  | [] => ""
  | (key, value) :: rest => "," ++ (quote key ++ (":" ++ (render value ++ renderFields rest)))

end

/-- an object whose first field names its variant -/
def tagged (kind : String) (fields : List (String × Json)) : Json := .obj (("kind", .str kind) :: fields)

/-! ## Lengths -/

/-- the length of a string inside its quotes -/
def escapedSize (l : List Char) : Nat := (l.map fun c => (escapeChar c).utf8ByteSize).sum

/-- the length of a string with its quotes -/
def quotedSize (s : String) : Nat := escapedSize s.toList + 2

mutual

/-- the length of the text -/
def size : Json → Nat
  | null => 4
  | bool b => if b then 4 else 5
  | num n => (toString n).utf8ByteSize
  | str s => quotedSize s
  | arr [] => 2
  | arr (item :: rest) => size item + itemsSize rest + 2
  | obj [] => 2
  | obj ((key, value) :: rest) => quotedSize key + size value + fieldsSize rest + 3

def itemsSize : List Json → Nat
  | [] => 0
  | item :: rest => size item + itemsSize rest + 1

def fieldsSize : List (String × Json) → Nat
  | [] => 0
  | (key, value) :: rest => quotedSize key + size value + fieldsSize rest + 2

end

theorem utf8ByteSize_escape (l : List Char) : (escape l).utf8ByteSize = escapedSize l := by
  induction l with
  | nil => rfl
  | cons c l ih => rw [escape, String.utf8ByteSize_append, ih, escapedSize, escapedSize, List.map_cons, List.sum_cons]

theorem utf8ByteSize_quote (s : String) : (quote s).utf8ByteSize = quotedSize s := by
  rw [quote, String.utf8ByteSize_append, String.utf8ByteSize_append, utf8ByteSize_escape, quotedSize,
    show "\"".utf8ByteSize = 1 from rfl]
  omega

mutual

/-- the length of the text is the size of the value -/
theorem utf8ByteSize_render : ∀ j : Json, j.render.utf8ByteSize = j.size
  | null => rfl
  | bool b => by cases b <;> rfl
  | num n => by rw [render, size]
  | str s => by rw [render, size, utf8ByteSize_quote]
  | arr [] => by rw [render, size]; rfl
  | arr (item :: rest) => by
    rw [render, size, String.utf8ByteSize_append, String.utf8ByteSize_append, String.utf8ByteSize_append,
      utf8ByteSize_render item, utf8ByteSize_renderItems rest, show "[".utf8ByteSize = 1 from rfl,
      show "]".utf8ByteSize = 1 from rfl]
    omega
  | obj [] => by rw [render, size]; rfl
  | obj ((key, value) :: rest) => by
    rw [render, size, String.utf8ByteSize_append, String.utf8ByteSize_append, String.utf8ByteSize_append,
      String.utf8ByteSize_append, String.utf8ByteSize_append, utf8ByteSize_quote, utf8ByteSize_render value,
      utf8ByteSize_renderFields rest, show "\x7b".utf8ByteSize = 1 from rfl, show ":".utf8ByteSize = 1 from rfl,
      show "\x7d".utf8ByteSize = 1 from rfl]
    omega

theorem utf8ByteSize_renderItems : ∀ l : List Json, (renderItems l).utf8ByteSize = itemsSize l
  | [] => by rw [renderItems, itemsSize]; rfl
  | item :: rest => by
    rw [renderItems, itemsSize, String.utf8ByteSize_append, String.utf8ByteSize_append, utf8ByteSize_render item,
      utf8ByteSize_renderItems rest, show ",".utf8ByteSize = 1 from rfl]
    omega

theorem utf8ByteSize_renderFields : ∀ l : List (String × Json), (renderFields l).utf8ByteSize = fieldsSize l
  | [] => by rw [renderFields, fieldsSize]; rfl
  | (key, value) :: rest => by
    rw [renderFields, fieldsSize, String.utf8ByteSize_append, String.utf8ByteSize_append, String.utf8ByteSize_append,
      String.utf8ByteSize_append, utf8ByteSize_quote, utf8ByteSize_render value, utf8ByteSize_renderFields rest,
      show ",".utf8ByteSize = 1 from rfl, show ":".utf8ByteSize = 1 from rfl]
    omega

end

/-! ### What the parts contribute -/

/-- the number of decimal digits of `n` -/
def decimalLength (n : Nat) : Nat := (Nat.toDigits 10 n).length

theorem utf8ByteSize_ofList_ascii {l : List Char} (h : ∀ c ∈ l, c.utf8Size = 1) :
    (String.ofList l).utf8ByteSize = l.length := by
  induction l with
  | nil => rfl
  | cons c l ih =>
    rw [String.ofList_cons, String.utf8ByteSize_append, String.utf8ByteSize_singleton, h c (.head _),
      ih fun d hd => h d (.tail _ hd), List.length_cons, Nat.add_comm]

/-- a character below `U+0080` takes one byte -/
theorem utf8Size_ascii {c : Char} (h : c.toNat < 128) : c.utf8Size = 1 := by
  have hval : c.val.toNat ≤ 127 := Nat.lt_succ_iff.mp h
  simp only [Char.utf8Size, UInt32.le_iff_toNat_le]
  rw [if_pos (by simpa using hval)]

theorem isDigit_toNat {c : Char} (h : c.isDigit = true) : 48 ≤ c.toNat ∧ c.toNat ≤ 57 := by
  simp only [Char.isDigit, Bool.and_eq_true, decide_eq_true_eq, ge_iff_le, UInt32.le_iff_toNat_le] at h
  exact ⟨h.1, h.2⟩

/-- a number takes its decimal digits -/
theorem size_num (n : Nat) : size (.num n) = decimalLength n := by
  show (Nat.repr n).utf8ByteSize = _
  rw [Nat.repr_eq_ofList_toDigits, utf8ByteSize_ofList_ascii, decimalLength]
  intro c hc
  have hdigit := isDigit_toNat (Nat.isDigit_of_mem_toDigits (by omega) (le_refl 10) hc)
  exact utf8Size_ascii (by omega)

theorem decimalLength_le {n e : Nat} (he : 0 < e) (h : n < 10 ^ e) : decimalLength n ≤ e :=
  Nat.toDigits_length 10 n e he h

theorem size_str (s : String) : size (.str s) = quotedSize s := by rw [size]

theorem size_obj (key : String) (value : Json) (rest : List (String × Json)) :
    size (.obj ((key, value) :: rest)) = quotedSize key + size value + fieldsSize rest + 3 := by rw [size]

theorem itemsSize_eq (l : List Json) : itemsSize l = (l.map size).sum + l.length := by
  induction l with
  | nil => rfl
  | cons item rest ih =>
    rw [itemsSize, ih, List.map_cons, List.sum_cons, List.length_cons]
    omega

/-- an array takes its items, the commas between them and its brackets -/
theorem size_arr (l : List Json) : size (.arr l) = (l.map size).sum + (l.length - 1) + 2 := by
  cases l with
  | nil => rfl
  | cons item rest =>
    rw [size, itemsSize_eq, List.map_cons, List.sum_cons, List.length_cons]
    omega

/-- a character that is written as itself in one byte -/
def Plain (c : Char) : Prop := 32 ≤ c.toNat ∧ c.toNat < 128 ∧ c ≠ '"' ∧ c ≠ '\\'

theorem escapeChar_plain {c : Char} (h : Plain c) : (escapeChar c).utf8ByteSize = 1 := by
  obtain ⟨hlow, hhigh, hquote, hslash⟩ := h
  have hplain : escapeChar c = String.singleton c := by
    rw [escapeChar, if_neg hquote, if_neg hslash, if_neg (by omega), if_neg (by omega), if_neg (by omega),
      if_neg (by omega), if_neg (by omega), if_neg (by omega)]
  rw [hplain, String.utf8ByteSize_singleton, utf8Size_ascii hhigh]

/-- a text of plain characters takes one byte for each and its quotes -/
theorem quotedSize_plain {s : String} (h : ∀ c ∈ s.toList, Plain c) : quotedSize s = s.toList.length + 2 := by
  have hmap : s.toList.map (fun c => (escapeChar c).utf8ByteSize) = s.toList.map fun _ => 1 :=
    List.map_congr_left fun c hc => escapeChar_plain (h c hc)
  rw [quotedSize, escapedSize, hmap, List.map_const', List.sum_replicate, smul_eq_mul, Nat.mul_one]

theorem utf8Size_digitChar : ∀ n < 16, (Nat.digitChar n).utf8Size = 1 := by decide

theorem utf8ByteSize_unicodeEscape {n : Nat} (h : n < 32) : (unicodeEscape n).utf8ByteSize = 6 := by
  rw [unicodeEscape, String.utf8ByteSize_append, String.ofList_cons, String.utf8ByteSize_append, String.ofList_cons,
    String.utf8ByteSize_append, String.utf8ByteSize_singleton, String.utf8ByteSize_singleton,
    utf8Size_digitChar _ (by omega), utf8Size_digitChar _ (by omega)]
  rfl

/-- a character takes at most six times its own bytes -/
theorem escapeChar_le (c : Char) : (escapeChar c).utf8ByteSize ≤ 6 * c.utf8Size := by
  have hpos : 6 ≤ 6 * c.utf8Size := Nat.le_mul_of_pos_right 6 (Char.utf8Size_pos c)
  have hshort : ∀ text : String, text.utf8ByteSize = 2 → text.utf8ByteSize ≤ 6 * c.utf8Size := fun text h => by omega
  unfold escapeChar
  split_ifs with hquote hslash hback htab hline hfeed hreturn hcontrol
  iterate 7 exact hshort _ rfl
  · exact (utf8ByteSize_unicodeEscape hcontrol).trans_le hpos
  · rw [String.utf8ByteSize_singleton]
    omega

theorem quotedSize_le (s : String) : quotedSize s ≤ 6 * s.utf8ByteSize + 2 := by
  have hchars : ∀ l : List Char, escapedSize l ≤ 6 * (String.ofList l).utf8ByteSize := by
    intro l
    induction l with
    | nil => simp [escapedSize]
    | cons c l ih =>
      rw [String.ofList_cons, String.utf8ByteSize_append, String.utf8ByteSize_singleton, escapedSize, List.map_cons,
        List.sum_cons]
      have hchar := escapeChar_le c
      rw [escapedSize] at ih
      omega
  have htext := hchars s.toList
  rw [String.ofList_toList] at htext
  rw [quotedSize]
  omega

end Json

/-! ## Encodings -/

/-- a type whose values are written as JSON -/
class ToJson (α : Type) where
  toJson : α → Json

export ToJson (toJson)

instance : ToJson String := ⟨.str⟩
instance : ToJson Bool := ⟨.bool⟩
instance : ToJson Nat := ⟨fun n => .num n⟩
instance : ToJson Int := ⟨.num⟩
instance : ToJson UInt8 := ⟨fun byte => .num byte.toNat⟩

/-- an absent value is `null` -/
instance {α : Type} [ToJson α] : ToJson (Option α) := ⟨fun
  | none => .null
  | some a => toJson a⟩

instance {α : Type} [ToJson α] : ToJson (List α) := ⟨fun l => .arr (l.map toJson)⟩

end Kaleido
