import Mathlib.Data.List.DropRight
import Mathlib.Data.List.Lex
import Mathlib.Data.List.Sort

/-!
# ECMAScript text operations

The operations of the host's strings that differ from those of `String`: white
space is the set which `String.prototype.trim` removes, and `split` keeps empty
pieces.
-/

namespace DContact.Lib.Text

open List

/-- White space and line terminators of ECMAScript. -/
def isSpace (character : Char) : Bool :=
  let code := character.toNat
  (decide (0x09 ≤ code) && decide (code ≤ 0x0D)) || code == 0x20 || code == 0xA0 ||
    code == 0x1680 || (decide (0x2000 ≤ code) && decide (code ≤ 0x200A)) || code == 0x2028 ||
    code == 0x2029 || code == 0x202F || code == 0x205F || code == 0x3000 || code == 0xFEFF

/-- Whether `trim` leaves nothing. -/
def isBlank (text : String) : Bool := text.toList.all isSpace

def trim (text : String) : String :=
  String.ofList (((text.toList.dropWhile isSpace).reverse.dropWhile isSpace).reverse)

theorem trim_chars (text : String) :
    (trim text).toList = (text.toList.dropWhile isSpace).rdropWhile isSpace := by
  rw [trim, String.toList_ofList, List.rdropWhile]

theorem trim_ne_empty {text : String} (visible : isBlank text = false) : trim text ≠ "" := by
  intro empty
  have rest : ∀ character ∈ text.toList.dropWhile isSpace, isSpace character = true := by
    rw [← rdropWhile_eq_nil_iff, ← trim_chars, empty]
    rfl
  have blank : isBlank text = true := by
    rw [isBlank, all_eq_true]
    intro character mem
    rw [← takeWhile_append_dropWhile (p := isSpace) (l := text.toList)] at mem
    rcases mem_append.mp mem with front | back
    · exact mem_takeWhile_imp front
    · exact rest character back
  rw [blank] at visible
  exact Bool.noConfusion visible

theorem trim_trim (text : String) : trim (trim text) = trim text := by
  rw [← String.toList_inj, trim_chars (trim text), trim_chars text]
  have kept : ((text.toList.dropWhile isSpace).rdropWhile isSpace).dropWhile isSpace =
      (text.toList.dropWhile isSpace).rdropWhile isSpace := by
    cases front : (text.toList.dropWhile isSpace).rdropWhile isSpace with
    | nil => rfl
    | cons first rest =>
        obtain ⟨back, whole⟩ := rdropWhile_prefix isSpace (l := text.toList.dropWhile isSpace)
        rw [front] at whole
        have head := head?_dropWhile_not isSpace text.toList
        rw [← whole] at head
        rw [dropWhile_cons_of_neg (by simpa using head)]
  rw [kept, rdropWhile_idempotent]

theorem isBlank_trim {text : String} (visible : isBlank text = false) :
    isBlank (trim text) = false := by
  rw [← Bool.not_eq_true]
  intro blank
  have empty : trim (trim text) = "" := by
    have front : (trim text).toList.dropWhile isSpace = [] :=
      dropWhile_eq_nil_iff.mpr (all_eq_true.mp blank)
    rw [← String.toList_inj, trim_chars (trim text), front]
    rfl
  exact trim_ne_empty visible ((trim_trim text).symm.trans empty)

def codeUnits (text : String) : List Nat :=
  text.toList.flatMap fun character =>
    let code := character.toNat
    if code < 0x10000 then [code]
    else [0xD800 + (code - 0x10000) / 0x400, 0xDC00 + (code - 0x10000) % 0x400]

theorem toNat_injective {left right : Char} (same : left.toNat = right.toNat) : left = right :=
  Char.ext (UInt32.toNat_inj.mp same)

/-- No surrogate is a character, so a code unit tells whether a second one follows. -/
theorem not_surrogate (character : Char) :
    character.toNat < 0xD800 ∨ (0xDFFF < character.toNat ∧ character.toNat < 0x110000) :=
  character.valid

theorem codeUnits_injective : Function.Injective codeUnits := by
  suffices lists : ∀ left right : List Char,
      codeUnits (String.ofList left) = codeUnits (String.ofList right) → left = right by
    intro left right same
    have equal := lists left.toList right.toList (by simpa using same)
    exact String.toList_inj.mp equal
  intro left
  induction left with
  | nil =>
      intro right same
      cases right with
      | nil => rfl
      | cons head rest =>
          simp only [codeUnits, String.toList_ofList, flatMap_nil, flatMap_cons] at same
          split at same <;> cases same
  | cons head rest ih =>
      intro right same
      cases right with
      | nil =>
          simp only [codeUnits, String.toList_ofList, flatMap_nil, flatMap_cons] at same
          split at same <;> cases same
      | cons other others =>
          have headValid := not_surrogate head
          have otherValid := not_surrogate other
          have tails := ih others
          simp only [codeUnits, String.toList_ofList, flatMap_cons] at same tails
          split at same <;> split at same
          all_goals simp only [cons_append, nil_append, List.cons.injEq] at same
          · rw [toNat_injective same.1, tails same.2]
          · omega
          · omega
          · have equal : head.toNat = other.toNat := by omega
            rw [toNat_injective equal, tails same.2.2]

/-- The host's `<` on texts compares code units. -/
def before (left right : String) : Bool := decide (codeUnits left < codeUnits right)

def sortBy {α : Type} (key : α → String) (items : List α) : List α :=
  items.insertionSort fun left right => before (key right) (key left) = false

variable {left right : String}

theorem before_eq_false : before left right = false ↔ codeUnits right ≤ codeUnits left := by
  rw [before, decide_eq_false_iff_not, not_lt]

variable {α : Type}

theorem sortBy_perm (key : α → String) (items : List α) : (sortBy key items).Perm items :=
  perm_insertionSort _ items

variable {key : α → String}

theorem mem_sortBy {items : List α} {item : α} : item ∈ sortBy key items ↔ item ∈ items :=
  (sortBy_perm key items).mem_iff

theorem sortBy_ordered (key : α → String) (items : List α) :
    (sortBy key items).Pairwise fun left right => before (key right) (key left) = false := by
  have total : Std.Total fun left right : α => before (key right) (key left) = false := by
    constructor
    intro left right
    simp only [before_eq_false]
    exact le_total _ _
  have transitive : IsTrans α fun left right => before (key right) (key left) = false := by
    constructor
    intro left middle right first second
    rw [before_eq_false] at first second ⊢
    exact first.trans second
  exact pairwise_insertionSort _ items

theorem sortBy_eq_of_perm {left right : List α} (same : left.Perm right)
    (distinct : (left.map key).Nodup) : sortBy key left = sortBy key right := by
  have shuffled : (sortBy key left).Perm (sortBy key right) :=
    (sortBy_perm key left).trans (same.trans (sortBy_perm key right).symm)
  refine List.Perm.eq_of_pairwise ?_ (sortBy_ordered key left) (sortBy_ordered key right) shuffled
  intro first second firstMember secondMember forward backward
  rw [before_eq_false] at forward backward
  have equal : key first = key second := codeUnits_injective (le_antisymm forward backward)
  have secondLeft : second ∈ left := same.mem_iff.mpr (mem_sortBy.mp secondMember)
  exact inj_on_of_nodup_map distinct (mem_sortBy.mp firstMember) secondLeft equal

theorem append_cons_injective {α : Type} {separator : α} :
    ∀ {left right front back : List α}, separator ∉ left → separator ∉ front →
      left ++ separator :: right = front ++ separator :: back → left = front ∧ right = back
  | [], _, [], _, _, _, same => ⟨rfl, (List.cons.inj same).2⟩
  | [], _, head :: _, _, _, absent, same =>
      absurd (mem_cons.mpr (.inl (List.cons.inj same).1)) absent
  | head :: _, _, [], _, absent, _, same =>
      absurd (mem_cons.mpr (.inl (List.cons.inj same).1.symm)) absent
  | head :: left, right, other :: front, back, absent, missing, same => by
      obtain ⟨rfl, rest⟩ := List.cons.inj same
      obtain ⟨rfl, rfl⟩ := append_cons_injective
        (fun mem => absent (mem_cons_of_mem _ mem))
        (fun mem => missing (mem_cons_of_mem _ mem)) rest
      exact ⟨rfl, rfl⟩

/-- A separator which neither front part contains tells the two parts of a text apart. -/
theorem join_injective {separator : Char} {front back : String} (absent : separator ∉ left.toList)
    (missing : separator ∉ front.toList) (same : left ++ String.singleton separator ++ right =
      front ++ String.singleton separator ++ back) : left = front ∧ right = back := by
  have lists : left.toList ++ separator :: right.toList =
      front.toList ++ separator :: back.toList := by
    simpa using congrArg String.toList same
  obtain ⟨fronts, backs⟩ := append_cons_injective absent missing lists
  exact ⟨String.toList_inj.mp fronts, String.toList_inj.mp backs⟩

/-- `text.split(separator)` for a separator of one character. -/
def split (text : String) (separator : Char) : List String :=
  (text.toList.splitOn separator).map String.ofList

variable {separator : Char} {text : String}

theorem not_mem_split {part : String} (mem : part ∈ split text separator) :
    separator ∉ part.toList := by
  obtain ⟨chars, inside, rfl⟩ := mem_map.mp mem
  rw [String.toList_ofList]
  clear mem
  generalize text.toList = whole at inside
  induction whole generalizing chars with
  | nil =>
      rw [splitOn_nil, mem_singleton] at inside
      rw [inside]
      exact not_mem_nil
  | cons head rest ih =>
      rw [splitOn_cons_eq_if_modifyHead] at inside
      split at inside
      next =>
        rcases mem_cons.mp inside with rfl | later
        · exact not_mem_nil
        · exact ih chars later
      next other =>
        cases pieces : rest.splitOn separator with
        | nil => exact absurd pieces (splitOn_ne_nil _ _)
        | cons first others =>
            rw [pieces, modifyHead_cons] at inside
            rw [pieces] at ih
            rcases mem_cons.mp inside with rfl | later
            · rw [mem_cons, not_or]
              exact ⟨fun same => other (beq_iff_eq.mpr same.symm), ih first mem_cons_self⟩
            · exact ih chars (mem_cons_of_mem _ later)

theorem intercalate_split :
    String.intercalate (String.singleton separator) (split text separator) = text := by
  rw [← String.toList_inj, String.toList_intercalate, split, map_map]
  simp [Function.comp_def]

theorem split_intercalate {parts : List String} (absent : ∀ part ∈ parts, separator ∉ part.toList)
    (some_ : parts ≠ []) :
    split (String.intercalate (String.singleton separator) parts) separator = parts := by
  rw [split, String.toList_intercalate, String.toList_singleton, splitOn_intercalate]
  · simp [Function.comp_def]
  · simpa using absent
  · simpa using some_

end DContact.Lib.Text
