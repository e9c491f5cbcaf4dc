/-! The fields of a template.

A template names a date by three fields, in the order year, month, day. A field is written as a
number of fixed width or as its keyword; `Triple` holds one thing for each field. -/
namespace Almanac

inductive Field
  | year | month | day
deriving DecidableEq, Repr

namespace Field

/-- The fields in the order of a template. -/
def all : List Field :=
  [year, month, day]

theorem mem_all (field : Field) : field ∈ all := by
  cases field <;> simp [all]

/-- The place of a field in a template, from 0. -/
def place : Field → Nat
  | year => 0
  | month => 1
  | day => 2

/-- Fields are ordered as they stand in a template. -/
instance : LT Field := ⟨fun f g => f.place < g.place⟩

instance (f g : Field) : Decidable (f < g) :=
  inferInstanceAs (Decidable (f.place < g.place))

/-- The name of a field in messages. -/
def name : Field → String
  | year => "year"
  | month => "month"
  | day => "day"

/-- The word that stands for the anchor's own value. -/
def keyword : Field → String
  | year => "YEAR"
  | month => "MONTH"
  | day => "DAY"

/-- How many digits a number in this field has. -/
def width : Field → Nat
  | year => 4
  | month => 2
  | day => 2

/-- The largest number that may be written in this field. A day may be as large as 31 whatever the
month; whether the month has that day is decided when the three fields are put together. -/
def largest : Field → Int
  | year => 9999
  | month => 12
  | day => 31

end Field

/-- One thing for each field. -/
structure Triple (α : Type) where
  year : α
  month : α
  day : α
deriving DecidableEq, Repr

namespace Triple
variable {α β : Type}

/-- The thing for a field. -/
def get (t : Triple α) : Field → α
  | .year => t.year
  | .month => t.month
  | .day => t.day

/-- The three things in the order of a template. -/
def toList (t : Triple α) : List α :=
  [t.year, t.month, t.day]

/-- The triple of a list of exactly three things. -/
def ofList? : List α → Option (Triple α)
  | [year, month, day] => some ⟨year, month, day⟩
  | _ => none

def map (f : α → β) (t : Triple α) : Triple β :=
  ⟨f t.year, f t.month, f t.day⟩

theorem ofList?_eq_some_iff {xs : List α} {t : Triple α} :
    ofList? xs = some t ↔ xs = t.toList := by
  obtain ⟨y, m, d⟩ := t
  rcases xs with _ | ⟨a, _ | ⟨b, _ | ⟨c, _ | ⟨e, xs⟩⟩⟩⟩ <;> simp [ofList?, toList]

theorem ofList?_eq_none_iff {xs : List α} : ofList? xs = none ↔ xs.length ≠ 3 := by
  rcases xs with _ | ⟨a, _ | ⟨b, _ | ⟨c, _ | ⟨e, xs⟩⟩⟩⟩ <;> simp [ofList?]

theorem ofList?_map (f : α → β) (xs : List α) : ofList? (xs.map f) = (ofList? xs).map (map f) := by
  rcases xs with _ | ⟨a, _ | ⟨b, _ | ⟨c, _ | ⟨d, xs⟩⟩⟩⟩ <;> rfl

theorem get_map (f : α → β) (t : Triple α) (field : Field) : (t.map f).get field = f (t.get field) := by
  cases field <;> rfl

/-- A triple is told by the things for the three fields. -/
theorem ext_get {s t : Triple α} (h : ∀ field, s.get field = t.get field) : s = t := by
  obtain ⟨year, month, day⟩ := s
  obtain rfl : year = t.year := h .year
  obtain rfl : month = t.month := h .month
  obtain rfl : day = t.day := h .day
  rfl

theorem map_eq_toList_iff {f : α → β} {xs : List α} {t : Triple β} :
    xs.map f = t.toList ↔ ∃ s : Triple α, xs = s.toList ∧ t = s.map f := by
  obtain ⟨y, m, d⟩ := t
  constructor
  · intro h
    rcases xs with _ | ⟨a, _ | ⟨b, _ | ⟨c, _ | ⟨e, xs⟩⟩⟩⟩ <;> simp [toList] at h
    obtain ⟨rfl, rfl, rfl⟩ := h
    exact ⟨⟨a, b, c⟩, rfl, rfl⟩
  · intro h
    obtain ⟨s, rfl, h⟩ := h
    rw [h]
    rfl

end Triple

end Almanac
