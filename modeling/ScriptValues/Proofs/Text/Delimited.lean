import Mathlib.Data.List.Forall2
import ScriptValues.Text.Basic

/-!
# Parts that show where they end

A text made of parts can be read back when each part shows where it ends. A part ends at a mark that
it does not hold (`append_mark_inj`), or is a word of a code in which no word begins another
(`PrefixFree.append_inj`), or is a list in brackets whose elements can be told from what follows
them (`bracketed_append_inj`).
-/

namespace ScriptValues.Text

theorem append_mark_inj {mark : Char} {body other x y : Text} (left : mark ∉ body)
    (right : mark ∉ other) (equal : body ++ mark :: x = other ++ mark :: y) :
    body = other ∧ x = y := by
  induction body generalizing other with
  | nil =>
      cases other with
      | nil => exact ⟨rfl, (List.cons.inj equal).2⟩
      | cons d other => exact absurd (List.cons.inj equal).1 (List.ne_of_not_mem_cons right)
  | cons c body ih =>
      cases other with
      | nil => exact absurd (List.cons.inj equal).1.symm (List.ne_of_not_mem_cons left)
      | cons d other =>
          obtain ⟨rfl, behind⟩ := List.cons.inj equal
          obtain ⟨rfl, rest⟩ :=
            ih (List.not_mem_of_not_mem_cons left) (List.not_mem_of_not_mem_cons right) behind
          exact ⟨rfl, rest⟩

theorem applied_append_eq_iff {head : String} {body other x y : Text} :
    applied head body ++ x = applied head other ++ y ↔ body ++ ')' :: x = other ++ ')' :: y := by
  simp [applied]

theorem applied_append_inj {head : String} {body other x y : Text} (left : ')' ∉ body)
    (right : ')' ∉ other) (equal : applied head body ++ x = applied head other ++ y) :
    body = other ∧ x = y :=
  append_mark_inj left right (applied_append_eq_iff.mp equal)

/-! ## Codes -/

def PrefixFree {α : Type} (code : α → Text) : Prop :=
  ∀ a b, code a <+: code b → a = b

namespace PrefixFree

variable {α : Type} {code : α → Text}

theorem append_inj (free : PrefixFree code) {a b : α} {x y : Text}
    (equal : code a ++ x = code b ++ y) : a = b ∧ x = y := by
  have begins : code a <+: code b ++ y := equal ▸ List.prefix_append _ _
  have same : a = b := by
    rcases List.prefix_or_prefix_of_prefix begins (List.prefix_append _ _) with first | second
    · exact free a b first
    · exact (free b a second).symm
  subst same
  exact ⟨rfl, List.append_cancel_left equal⟩

theorem flatMap_append_inj (free : PrefixFree code) {mark : Char}
    (begins : ∀ a, ∃ c rest, code a = c :: rest ∧ c ≠ mark) {items others : List α} {x y : Text}
    (equal : items.flatMap code ++ mark :: x = others.flatMap code ++ mark :: y) :
    items = others ∧ x = y := by
  induction items generalizing others with
  | nil =>
      cases others with
      | nil => exact ⟨rfl, (List.cons.inj equal).2⟩
      | cons b others =>
          obtain ⟨c, rest, word, other⟩ := begins b
          rw [List.flatMap_cons, word] at equal
          exact absurd (List.cons.inj equal).1.symm other
  | cons a items ih =>
      cases others with
      | nil =>
          obtain ⟨c, rest, word, other⟩ := begins a
          rw [List.flatMap_cons, word] at equal
          exact absurd (List.cons.inj equal).1 other
      | cons b others =>
          rw [List.flatMap_cons, List.flatMap_cons, List.append_assoc, List.append_assoc] at equal
          obtain ⟨rfl, behind⟩ := free.append_inj equal
          obtain ⟨rfl, rest⟩ := ih behind
          exact ⟨rfl, rest⟩

end PrefixFree

/-! ## Lists in brackets -/

/-- What stands behind an element: the rest of the list, its closing bracket, and what follows. -/
def remainder : List Text → Text → Text
  | [], after => ']' :: after
  | part :: parts, after => ',' :: ' ' :: (part ++ remainder parts after)

theorem commaSeparated_append (part : Text) (parts : List Text) (after : Text) :
    commaSeparated (part :: parts) ++ ']' :: after = part ++ remainder parts after := by
  induction parts generalizing part with
  | nil => rfl
  | cons next parts ih =>
      rw [commaSeparated, remainder, List.append_assoc, List.cons_append, List.cons_append, ih]

theorem bracketed_nil_append (after : Text) : bracketed [] ++ after = '[' :: ']' :: after := rfl

theorem bracketed_cons_append (part : Text) (parts : List Text) (after : Text) :
    bracketed (part :: parts) ++ after = '[' :: (part ++ remainder parts after) := by
  rw [← commaSeparated_append, bracketed, List.cons_append, List.append_assoc]
  rfl

inductive Stops : Text → Prop
  | comma (rest : Text) : Stops (',' :: rest)
  | bracket (rest : Text) : Stops (']' :: rest)

theorem stops_remainder (parts : List Text) (after : Text) : Stops (remainder parts after) := by
  cases parts with
  | nil => exact .bracket _
  | cons part parts => exact .comma _

structure Unbroken (body : Text) : Prop where
  comma : ',' ∉ body
  bracket : ']' ∉ body

theorem Unbroken.eq_nil_of_stops {body after : Text} (unbroken : Unbroken body)
    (stops : Stops (body ++ after)) : body = [] := by
  cases body with
  | nil => rfl
  | cons c body =>
      cases stops with
      | comma _ => exact absurd List.mem_cons_self unbroken.comma
      | bracket _ => exact absurd List.mem_cons_self unbroken.bracket

theorem Unbroken.of_append_right {body rest : Text} (unbroken : Unbroken (body ++ rest)) :
    Unbroken rest where
  comma member := unbroken.comma (List.mem_append_right _ member)
  bracket member := unbroken.bracket (List.mem_append_right _ member)

theorem Unbroken.append_stops_inj {body other x y : Text} (left : Unbroken body)
    (right : Unbroken other) (stops : Stops x) (stopsToo : Stops y)
    (equal : body ++ x = other ++ y) : body = other ∧ x = y := by
  rcases List.append_eq_append_iff.mp equal with ⟨rest, rfl, rfl⟩ | ⟨rest, rfl, rfl⟩
  · obtain rfl := right.of_append_right.eq_nil_of_stops stops
    exact ⟨(List.append_nil _).symm, rfl⟩
  · obtain rfl := left.of_append_right.eq_nil_of_stops stopsToo
    exact ⟨List.append_nil _, rfl⟩

section Elements

variable {α : Type} {text : α → Text} {related : α → α → Prop}

/-- Where the text of an element ends can be seen from what stands behind it. -/
def Separates (text : α → Text) (related : α → α → Prop) (a b : α) : Prop :=
  ∀ x y, Stops x → Stops y → text a ++ x = text b ++ y → related a b ∧ x = y

theorem remainder_inj {items others : List α} {x y : Text}
    (separate : ∀ a ∈ items, ∀ b ∈ others, Separates text related a b)
    (equal : remainder (items.map text) x = remainder (others.map text) y) :
    List.Forall₂ related items others ∧ x = y := by
  induction items generalizing others with
  | nil =>
      cases others with
      | nil => exact ⟨.nil, (List.cons.inj equal).2⟩
      | cons b others => exact absurd (List.cons.inj equal).1 (by decide)
  | cons a items ih =>
      cases others with
      | nil => exact absurd (List.cons.inj equal).1 (by decide)
      | cons b others =>
          have elements : text a ++ remainder (items.map text) x =
              text b ++ remainder (others.map text) y :=
            (List.cons.inj (List.cons.inj equal).2).2
          obtain ⟨head, behind⟩ := separate a List.mem_cons_self b List.mem_cons_self _ _
            (stops_remainder _ _) (stops_remainder _ _) elements
          have later : ∀ a ∈ items, ∀ b ∈ others, Separates text related a b := fun a left b right =>
            separate a (List.mem_cons_of_mem _ left) b (List.mem_cons_of_mem _ right)
          obtain ⟨tail, rest⟩ := ih later behind
          exact ⟨.cons head tail, rest⟩

theorem bracketed_append_inj {items others : List α} {x y : Text}
    (separate : ∀ a ∈ items, ∀ b ∈ others, Separates text related a b)
    (begins : ∀ a, a ∈ items ∨ a ∈ others → ∃ c rest, text a = c :: rest ∧ c ≠ ']')
    (equal : bracketed (items.map text) ++ x = bracketed (others.map text) ++ y) :
    List.Forall₂ related items others ∧ x = y := by
  cases items with
  | nil =>
      cases others with
      | nil => exact ⟨.nil, (List.cons.inj (List.cons.inj equal).2).2⟩
      | cons b others =>
          obtain ⟨c, rest, first, other⟩ := begins b (.inr List.mem_cons_self)
          rw [List.map_nil, bracketed_nil_append, List.map_cons, bracketed_cons_append, first] at equal
          exact absurd (List.cons.inj (List.cons.inj equal).2).1.symm other
  | cons a items =>
      cases others with
      | nil =>
          obtain ⟨c, rest, first, other⟩ := begins a (.inl List.mem_cons_self)
          rw [List.map_nil, bracketed_nil_append, List.map_cons, bracketed_cons_append, first] at equal
          exact absurd (List.cons.inj (List.cons.inj equal).2).1 other
      | cons b others =>
          -- A list of one element or more reads as an element behind a comma does.
          rw [List.map_cons, bracketed_cons_append, List.map_cons, bracketed_cons_append] at equal
          refine remainder_inj separate ?_
          exact congrArg (fun text => ',' :: ' ' :: text) (List.cons.inj equal).2

end Elements

end ScriptValues.Text
