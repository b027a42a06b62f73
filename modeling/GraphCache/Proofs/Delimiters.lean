import GraphCache.Json.Printer
import Mathlib

/-! Where written values end. A reader that only counts brackets and watches quotes never
leaves a written value before its last character, and a separator or a closing bracket that
follows takes it out at once. So of two texts that begin with written values, the values have
the same end if the texts agree; and no object ends with the text of a shorter object. Where
characters of one kind are followed by another character, they end there as well. -/
namespace GraphCache

/-- Where such a reader stands: outside of texts in some number of open brackets, inside a text,
behind a backslash in it, or past the end of the value. -/
inductive Place where
  | outside (depth : Nat)
  | inside (depth : Nat)
  | escaped (depth : Nat)
  | broken
deriving DecidableEq

namespace Place

/-- One character. Outside of all brackets a separator ends the value, unless the reader is
`loose` and goes on to the next one. -/
def next (loose : Bool) : Place → Char → Place
  | outside depth, c =>
    if c = '"' then inside depth
    else if c = '\\' then broken
    else if c = '[' ∨ c = '\x7b' then outside (depth + 1)
    else if c = ']' ∨ c = '\x7d' then
      match depth with
      | 0 => broken
      | below + 1 => outside below
    else if (c = ',' ∨ c = ':') ∧ depth = 0 ∧ loose = false then broken
    else outside depth
  | inside depth, c =>
    if c = '"' then outside depth else if c = '\\' then escaped depth else inside depth
  | escaped depth, _ => inside depth
  | broken, _ => broken

/-- Where the reader stands after a text. -/
def after (loose : Bool) (place : Place) (text : List Char) : Place := text.foldl (next loose) place

variable {loose : Bool} {place : Place}

@[simp] theorem after_nil : place.after loose [] = place := rfl

@[simp] theorem after_cons (c : Char) (text : List Char) :
    place.after loose (c :: text) = (place.next loose c).after loose text := rfl

@[simp] theorem after_append (first second : List Char) :
    place.after loose (first ++ second) = (place.after loose first).after loose second :=
  List.foldl_append

@[simp] theorem after_broken (text : List Char) : broken.after loose text = broken := by
  induction text with
  | nil => rfl
  | cons c rest ih => exact ih

/-- Two places of which one is inside a text and the other is not. -/
def Apart : Place → Place → Prop
  | outside _, inside _ => True
  | inside _, outside _ => True
  | broken, _ => True
  | _, broken => True
  | _, _ => False

theorem Apart.symm {first second : Place} (apart : first.Apart second) : second.Apart first := by
  cases first <;> cases second <;> trivial

private theorem apart_next_outside (loose : Bool) (depth other : Nat) (c : Char) :
    ((outside depth).next loose c).Apart ((inside other).next loose c) := by
  by_cases quote : c = '"'
  · simp [next, quote, Apart]
  by_cases backslash : c = '\\'
  · simp [next, backslash, Apart]
  have stays : (inside other).next loose c = inside other := by simp [next, quote, backslash]
  rw [stays]
  simp only [next, quote, backslash, if_false]
  split
  · trivial
  · split
    · cases depth <;> trivial
    · split <;> trivial

/-- What is a text to one of them is none to the other, so they never meet outside. -/
theorem Apart.next {first second : Place} (apart : first.Apart second) (c : Char) :
    (first.next loose c).Apart (second.next loose c) := by
  match first, second, apart with
  | outside depth, inside other, _ => exact apart_next_outside loose depth other c
  | inside other, outside depth, _ => exact (apart_next_outside loose depth other c).symm
  | broken, _, _ => trivial
  | outside _, broken, _ => exact Apart.symm trivial
  | inside _, broken, _ => exact Apart.symm trivial
  | escaped _, broken, _ => exact Apart.symm trivial

theorem Apart.after {first second : Place} (apart : first.Apart second) (text : List Char) :
    (first.after loose text).Apart (second.after loose text) := by
  induction text generalizing first second with
  | nil => exact apart
  | cons c rest ih => exact ih (apart.next c)

/-- No text leads out of a text and from outside to outside as well. -/
theorem inside_after_ne {text : List Char} {depth other last : Nat}
    (closed : (outside depth).after loose text = outside last) (final : Nat) :
    (inside other).after loose text ≠ outside final := by
  intro left
  have apart : (outside depth).Apart (inside other) := trivial
  have met : ((outside depth).after loose text).Apart ((inside other).after loose text) :=
    apart.after text
  rw [closed, left] at met
  exact met

end Place

/-! ## Parts of a text -/

/-- Of a text that is written in two ways as characters of one kind and what follows them, both ways
are the same if what follows begins with none of them. -/
theorem append_split {part : Char → Prop} {first second rest other : List Char}
    (one : ∀ c ∈ first, part c) (two : ∀ c ∈ second, part c)
    (begins : ∀ c more, rest = c :: more → ¬part c) (begins' : ∀ c more, other = c :: more → ¬part c)
    (same : first ++ rest = second ++ other) : first = second ∧ rest = other := by
  obtain ⟨more, rfl, later⟩ | ⟨more, rfl, later⟩ := List.append_eq_append_iff.mp same
  · cases more with
    | nil => simpa using later
    | cons c more => exact absurd (two c (by simp)) (begins c _ later)
  · cases more with
    | nil => simpa using later.symm
    | cons c more => exact absurd (one c (by simp)) (begins' c _ later)

/-! ## Closed texts -/

/-- A text that the reader ends in as many brackets as it began, and does not leave. -/
def Closed (text : List Char) : Prop :=
  ∀ loose depth, (Place.outside depth).after loose text = .outside depth

/-- A text that is closed but for separators. -/
def Linked (text : List Char) : Prop :=
  ∀ loose depth, loose = true ∨ 0 < depth →
    (Place.outside depth).after loose text = .outside depth

/-- The characters that say nothing to the reader. -/
def Plain (c : Char) : Prop := c ∉ ['"', '\\', '[', ']', '\x7b', '\x7d', ',', ':']

instance : DecidablePred Plain := fun c => inferInstanceAs (Decidable (c ∉ _))

theorem plain_of_isDigit {c : Char} (digit : c.isDigit = true) : Plain c := by
  intro special
  simp only [List.mem_cons, List.not_mem_nil, or_false] at special
  rcases special with rfl | rfl | rfl | rfl | rfl | rfl | rfl | rfl <;> cases digit

/-- They stay inside a text, too. -/
theorem Place.inside_after_plain {text : List Char} (plain : ∀ c ∈ text, Plain c) (loose : Bool)
    (depth : Nat) : (inside depth).after loose text = inside depth := by
  induction text with
  | nil => rfl
  | cons c rest ih =>
    obtain ⟨own, others⟩ := List.forall_mem_cons.mp plain
    simp only [Plain, List.mem_cons, not_or] at own
    rw [after_cons, show (inside depth).next loose c = inside depth by simp [next, own], ih others]

/-- What may follow a value: nothing, a separator or a closing bracket. -/
def Ends (text : List Char) : Prop :=
  ∀ c rest, text = c :: rest → c = ',' ∨ c = ':' ∨ c = ']' ∨ c = '\x7d'

theorem ends_nil : Ends [] := nofun

theorem ends_cons {c : Char} (rest : List Char)
    (last : c = ',' ∨ c = ':' ∨ c = ']' ∨ c = '\x7d') : Ends (c :: rest) := by
  intro first others same
  cases same
  exact last

/-- Closed texts that begin one text are the same, if what follows them ends them. -/
theorem Closed.split {first second : List Char} (one : Closed first) (two : Closed second)
    {rest other : List Char} (ends : Ends rest) (others : Ends other)
    (same : first ++ rest = second ++ other) : first = second ∧ rest = other := by
  -- A closed text that goes on behind a closed text would have to pass what ends that.
  have whole : ∀ {begun more left right : List Char}, Closed begun → Closed (begun ++ more) →
      Ends left → left = more ++ right → more = [] := by
    intro begun more left right short long stop begins
    cases more with
    | nil => rfl
    | cons c more =>
      have passed := long false 0
      rw [Place.after_append, short false 0, Place.after_cons] at passed
      have stopped : (Place.outside 0).next false c = .broken := by
        obtain rfl | rfl | rfl | rfl := stop c (more ++ right) begins <;> rfl
      rw [stopped, Place.after_broken] at passed
      cases passed
  obtain ⟨more, rfl, begins⟩ | ⟨more, rfl, begins⟩ := List.append_eq_append_iff.mp same
  · obtain rfl := whole one two ends begins
    simpa using begins
  · obtain rfl := whole two one others begins
    simpa using begins.symm

theorem Closed.append {first second : List Char} (one : Closed first) (two : Closed second) :
    Closed (first ++ second) := by
  intro loose depth
  rw [Place.after_append, one, two]

theorem closed_of_plain {text : List Char} (plain : ∀ c ∈ text, Plain c) : Closed text := by
  intro loose depth
  induction text with
  | nil => rfl
  | cons c rest ih =>
    obtain ⟨own, others⟩ := List.forall_mem_cons.mp plain
    have stays : (Place.outside depth).next loose c = .outside depth := by
      simp only [Plain, List.mem_cons, List.not_mem_nil, or_false, not_or] at own
      obtain ⟨quote, backslash, opened, closed, open', close', comma, colon⟩ := own
      simp [Place.next, quote, backslash, opened, closed, open', close', comma, colon]
    rw [Place.after_cons, stays, ih others]

theorem Closed.linked {text : List Char} (closed : Closed text) : Linked text :=
  fun loose depth _ => closed loose depth

theorem Linked.append {first second : List Char} (one : Linked first) (two : Linked second) :
    Linked (first ++ second) := by
  intro loose depth open'
  rw [Place.after_append, one loose depth open', two loose depth open']

theorem linked_separator {c : Char} (separator : c = ',' ∨ c = ':') : Linked [c] := by
  rintro loose depth (rfl | positive)
  · obtain rfl | rfl := separator <;> simp [Place.next]
  · obtain rfl | rfl := separator <;> simp [Place.next, positive.ne']

/-- Between brackets a text is closed that has separators only. -/
theorem Linked.bracketed {body : List Char} (linked : Linked body) {first last : Char}
    (opens : first = '[' ∨ first = '\x7b') (closes : last = ']' ∨ last = '\x7d') :
    Closed (first :: (body ++ [last])) := by
  intro loose depth
  have enters : (Place.outside depth).next loose first = .outside (depth + 1) := by
    obtain rfl | rfl := opens <;> rfl
  have leaves : (Place.outside (depth + 1)).next loose last = .outside depth := by
    obtain rfl | rfl := closes <;> rfl
  rw [Place.after_cons, enters, Place.after_append, linked loose (depth + 1) (.inr (by omega)),
    Place.after_cons, leaves, Place.after_nil]

/-- An object does not end with the text of a shorter one: a brace inside it is closed again
before the last, or stands in a text, where what follows it would have its quotes the other
way round. -/
theorem Linked.suffix {body other : List Char} (one : Linked body) (two : Linked other)
    {before : List Char}
    (same : '\x7b' :: (body ++ ['\x7d']) = before ++ '\x7b' :: (other ++ ['\x7d'])) :
    before = [] := by
  cases before with
  | nil => rfl
  | cons c before =>
    obtain ⟨rfl, same⟩ := List.cons.inj same
    have ended : body = before ++ '\x7b' :: other := by
      have closed : body ++ ['\x7d'] = (before ++ '\x7b' :: other) ++ ['\x7d'] := by
        simpa using same
      exact List.append_cancel_right closed
    have back := one true 0 (.inl rfl)
    rw [ended, Place.after_append, Place.after_cons] at back
    cases reached : (Place.outside 0).after true before with
    | broken =>
      rw [reached] at back
      cases back.symm.trans (Place.after_broken other)
    | outside depth =>
      rw [reached] at back
      cases back.symm.trans (two true (depth + 1) (.inl rfl))
    | inside depth =>
      rw [reached] at back
      exact absurd back (Place.inside_after_ne (two true 0 (.inl rfl)) 0)
    | escaped depth =>
      rw [reached] at back
      exact absurd back (Place.inside_after_ne (two true 0 (.inl rfl)) 0)

end GraphCache
