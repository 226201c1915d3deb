-- The truth values of SQL. A comparison with null is neither true nor false.
namespace SqlTree

/-- What a condition comes to for a row. -/
inductive Truth where
  | holds
  | fails
  | unknown
deriving DecidableEq, Repr

namespace Truth

def ofBool (b : Bool) : Truth := if b then holds else fails

def not : Truth → Truth
  | holds => fails
  | fails => holds
  | unknown => unknown

def and : Truth → Truth → Truth
  | fails, _ | _, fails => fails
  | holds, holds => holds
  | _, _ => unknown

def or : Truth → Truth → Truth
  | holds, _ | _, holds => holds
  | fails, fails => fails
  | _, _ => unknown

/-- Some condition of a list. -/
def any (ts : List Truth) : Truth := ts.foldr or fails

/-- Every condition of a list. -/
def all (ts : List Truth) : Truth := ts.foldr and holds

theorem all_cons (t : Truth) (ts : List Truth) : all (t :: ts) = t.and (all ts) := rfl

theorem and_assoc (a b c : Truth) : (a.and b).and c = a.and (b.and c) := by
  cases a <;> cases b <;> cases c <;> rfl

theorem or_assoc (a b c : Truth) : (a.or b).or c = a.or (b.or c) := by
  cases a <;> cases b <;> cases c <;> rfl

@[simp] theorem holds_and (a : Truth) : holds.and a = a := by cases a <;> rfl

@[simp] theorem and_holds (a : Truth) : a.and holds = a := by cases a <;> rfl

@[simp] theorem fails_or (a : Truth) : fails.or a = a := by cases a <;> rfl

theorem not_or (a b : Truth) : (a.or b).not = a.not.and b.not := by
  cases a <;> cases b <;> rfl

/-- No condition of a list holds exactly as all of them fail. -/
theorem not_any (ts : List Truth) : (any ts).not = all (ts.map not) := by
  induction ts with
  | nil => rfl
  | cons t ts ih =>
    show (t.or (any ts)).not = t.not.and (all (ts.map not))
    rw [not_or, ih]

end Truth

end SqlTree
