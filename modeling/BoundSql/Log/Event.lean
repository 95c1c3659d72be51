import BoundSql.Value.Access

/-!
# Log events

An event is what a part of the library reports while it works: how grave it is, which logger reports
it, the message, and a context that some loggers attach.
-/

namespace BoundSql.Log

/-- How grave an event is; greater is graver. -/
abbrev Level := Int

/-- The levels that have names. -/
def debug : Level := 10

/-- Ordinary progress. -/
def info : Level := 20

/-- Something unexpected that does no harm yet. -/
def warning : Level := 30

/-- A failure. -/
def error : Level := 40

/-- A failure that ends the work. -/
def critical : Level := 50

/-- The name of a level; one that has none is shown as a number. -/
def levelName (l : Level) : Outcome String :=
  if l = critical then .ok "CRITICAL"
  else if l = error then .ok "ERROR"
  else if l = warning then .ok "WARNING"
  else if l = info then .ok "INFO"
  else if l = debug then .ok "DEBUG"
  else if l = 0 then .ok "NOTSET"
  else (Value.int l).shown.map ("Level " ++ ·)

section
variable {l : Level}

theorem exists_levelName (h : (Value.int l).hasLongNumeral = false) : ∃ s, levelName l = .ok s := by
  unfold levelName
  rw [Value.shown_of_short h]
  repeat' split
  all_goals exact ⟨_, rfl⟩

/-- A level that is too long to be written has no name. -/
theorem levelName_of_long (h : (Value.int l).hasLongNumeral = true) :
    levelName l = .error (.unwritable Text.numeralLimit) := by
  have hne : ∀ k : Level, (Value.int k).hasLongNumeral = false → l ≠ k := by
    rintro k hk rfl
    cases hk.symm.trans h
  rw [levelName, if_neg (hne _ (by decide +kernel)), if_neg (hne _ (by decide +kernel)),
    if_neg (hne _ (by decide +kernel)), if_neg (hne _ (by decide +kernel)),
    if_neg (hne _ (by decide +kernel)), if_neg (hne _ (by decide +kernel)), Value.shown_of_long h]
  rfl

end

/-- A report. -/
structure Event where
  level : Level
  logger : String
  message : String
  context : Option Mapping
  deriving Repr, Inhabited

end BoundSql.Log
