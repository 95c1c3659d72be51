import BoundSql.Number.Places
import BoundSql.Value.Access
import BoundSql.Value.Whole

/-!
# Message templates

A template is text with directives, each of which shows one argument.  A directive begins with a
percent sign; then come, all optional, a key in parentheses, flags, a least width, a precision after
a point and a letter without meaning, and last the conversion.  Two percent signs are a percent sign.

A template is read once into `Piece`s (`Template.pieces`) and shown by folding over them
(`Template.format`).  What is wrong with a directive comes out only when it is reached, after the
arguments that stand before the defect have been taken.
-/

namespace BoundSql.Log

/-- A width or a precision: written out, or taken from the arguments. -/
inductive Size where
  | given (n : Nat)
  | argument
  deriving Repr

/-- A directive; parts that the template ends before are missing. -/
structure Directive where
  /-- A key, or `none` inside if its parentheses are not closed. -/
  key : Option (Option String)
  flags : List Char
  width : Option Size
  precision : Option Size
  conversion : Option Char
  /-- Where the conversion stands in the template. -/
  place : Nat
  deriving Repr

/-- A part of a template. -/
inductive Piece where
  | literal (c : Char)
  | directive (d : Directive)
  deriving Repr

namespace Template

/-! ### Reading -/

/-- The characters up to the parenthesis that closes the open ones, and the rest after it. -/
def untilClosed : (nesting : Nat) → List Char → Option (List Char × List Char)
  | _, [] => none
  | nesting, c :: cs =>
    if c == ')' then
      match nesting with
      | 0 => some ([], cs)
      | n + 1 => (untilClosed n cs).map fun p => (c :: p.1, p.2)
    else (untilClosed (if c == '(' then nesting + 1 else nesting) cs).map fun p => (c :: p.1, p.2)

/-- The flags of a directive. -/
def isFlag (c : Char) : Bool := c == '-' || c == '+' || c == ' ' || c == '#' || c == '0'

/-- The letters that have no meaning before a conversion. -/
def isLength (c : Char) : Bool := c == 'h' || c == 'l' || c == 'L'

/-- The number that a run of digits denotes. -/
def number (ds : List Char) : Nat := ds.foldl (fun n c => 10 * n + (c.toNat - 48)) 0

/-- A width: a star, or digits. -/
def readSize : List Char → Option Size × List Char
  | '*' :: cs => (some .argument, cs)
  | cs =>
    let ds := cs.takeWhile Char.isDigit
    (if ds.isEmpty then none else some (.given (number ds)), cs.dropWhile Char.isDigit)

/-- A precision: a point and a size, which is zero if it is left out. -/
def readPrecision : List Char → Option Size × List Char
  | '.' :: cs =>
    let (size, rest) := readSize cs
    (some (size.getD (.given 0)), rest)
  | cs => (none, cs)

/-- The letter without meaning, if there is one. -/
def dropLength : List Char → List Char
  | c :: cs => if isLength c then cs else c :: cs
  | [] => []

/-- The directive after a percent sign, and the rest of the template, which has `total` characters
in all. -/
def readDirective (total : Nat) (cs : List Char) : Directive × List Char :=
  let (key, cs) := match cs with
    | '(' :: r =>
      match untilClosed 0 r with
      | some (k, rest) => (some (some (String.ofList k)), rest)
      | none => (some none, [])
    | cs => (none, cs)
  let flags := cs.takeWhile isFlag
  let (width, cs) := readSize (cs.dropWhile isFlag)
  let (precision, cs) := readPrecision cs
  let cs := dropLength cs
  (⟨key, flags, width, precision, cs.head?, total - cs.length⟩, cs.drop 1)

/-- The pieces of the rest of a template, of which there are at most `fuel`. -/
def piecesFrom (total : Nat) : (fuel : Nat) → List Char → List Piece
  | 0, _ => []
  | _, [] => []
  | fuel + 1, c :: cs =>
    if c == '%' then
      match cs with
      | '%' :: r => .literal '%' :: piecesFrom total fuel r
      | cs =>
        let (d, rest) := readDirective total cs
        .directive d :: piecesFrom total fuel rest
    else .literal c :: piecesFrom total fuel cs

/-- The pieces of a template. -/
def pieces (template : String) : List Piece :=
  let cs := template.toList
  piecesFrom cs.length cs.length cs

/-! ### Showing one argument -/

/-- A wrong kind of argument. -/
def mismatch {α : Type} (message : String) : Outcome α := .error (.misuse (.formatText message))

/-- A directive that makes no sense. -/
def defect {α : Type} (message : String) : Outcome α := .error (.value message)

/-- Text that is shown, and whether zeros may fill it up to its width. -/
structure Shown where
  text : List Char
  numeric : Bool

/-- The integer part of an argument, for the decimal conversions. -/
def integerPart (conversion : Char) (v : Value) : Outcome Int :=
  match v.wholePart? with
  | some n => n
  | none => mismatch ("%" ++ String.singleton conversion
      ++ " format: a real number is required, not " ++ v.kind)

/-- An argument that is an integer, for the other bases. -/
def integer (conversion : Char) : Value → Outcome Int
  | .bool b => .ok (if b then 1 else 0)
  | .int n => .ok n
  | v => mismatch ("%" ++ String.singleton conversion
      ++ " format: an integer is required, not " ++ v.kind)

/-- An argument as a binary64 number. -/
def floating : Value → Outcome Binary64
  | .float x => .ok x
  | .bool b => .ok (.ofInt (if b then 1 else 0))
  | .int n =>
    match Binary64.ofInt n with
    | .infinite _ => .error .floatOverflow
    | x => .ok x
  | .decimal d => Value.floatOfDecimal d
  | v => mismatch ("must be real number, not " ++ v.kind)

/-- Digits with zeros before them, at least as many as the precision asks for. -/
def atLeast (precision : Option Nat) (ds : List Char) : List Char :=
  List.replicate (precision.getD 0 - ds.length) '0' ++ ds

/-- A sign before a text. -/
def signed (negative : Bool) (cs : List Char) : List Char := if negative then '-' :: cs else cs

/-- An integer in a base, with the base's mark if asked for. -/
def inBase (base : Nat) (mark : List Char) (capital : Bool) (precision : Option Nat) (n : Int) :
    List Char :=
  let ds := atLeast precision (Nat.toDigits base n.natAbs)
  let cs := mark ++ ds
  signed (n < 0) (if capital then cs.map Char.toUpper else cs)

/-- The magnitude of a float in the layout of a conversion. -/
def floatBody (conversion : Char) (alternate : Bool) (precision : Nat) (num den : Nat) :
    List Char :=
  match conversion.toLower with
  | 'e' =>
    if alternate && precision == 0 then
      let cs := Places.scientific 0 num den
      cs.take 1 ++ '.' :: cs.drop 1
    else Places.scientific precision num den
  | 'f' =>
    let cs := Places.fixed precision num den
    if alternate && precision == 0 then cs ++ ['.'] else cs
  | _ => Places.general precision alternate num den

/-- A float in the layout of a conversion, with six places unless told otherwise. -/
def float (conversion : Char) (alternate : Bool) (precision : Option Nat) (x : Binary64) :
    List Char :=
  let cs := match x with
    | .nan => ['n', 'a', 'n']
    | .infinite negative => signed negative ['i', 'n', 'f']
    | .finite negative m e =>
      let (num, den) := Binary64.ratio m e
      signed negative (floatBody conversion alternate (precision.getD 6) num den)
  if conversion.isUpper then cs.map Char.toUpper else cs

/-- A literal in which characters beyond ASCII are escaped. -/
def asciiOnly (cs : List Char) : List Char :=
  cs.flatMap fun c => if c.toNat < 0x80 then [c] else Text.hexEscape c.toNat

/-- The character that an argument stands for. -/
def character : Value → Outcome Char
  | .int n =>
    if 0 ≤ n ∧ n < 0x110000 then .ok (Char.ofNat n.toNat)
    else .error (.overflow "%c arg not in range(0x110000)")
  | .bool b => .ok (Char.ofNat (if b then 1 else 0))
  | .text s =>
    match s.toList with
    | [c] => .ok c
    | _ => mismatch "%c requires int or char"
  | _ => mismatch "%c requires int or char"

/-- An argument in the form that a conversion asks for. -/
def convert (conversion : Char) (place : Nat) (flags : List Char) (precision : Option Nat)
    (v : Value) : Outcome Shown :=
  let alternate := flags.contains '#'
  let cut (s : String) : Shown :=
    let cs := if conversion == 'a' then asciiOnly s.toList else s.toList
    ⟨match precision with
      | some n => cs.take n
      | none => cs, false⟩
  match conversion with
  | 's' => v.shown.map cut
  | 'r' | 'a' => v.written.map cut
  | 'c' => (character v).map fun c => ⟨[c], false⟩
  | 'd' | 'i' | 'u' =>
    (integerPart conversion v).bind fun n =>
      (Value.int n).shown.map fun _ => ⟨inBase 10 [] false precision n, true⟩
  | 'o' =>
    let mark := if alternate then ['0', 'o'] else []
    (integer conversion v).map fun n => ⟨inBase 8 mark false precision n, true⟩
  | 'x' | 'X' =>
    let mark := if alternate then ['0', 'x'] else []
    (integer conversion v).map fun n => ⟨inBase 16 mark (conversion == 'X') precision n, true⟩
  | 'e' | 'E' | 'f' | 'F' | 'g' | 'G' =>
    (floating v).map fun x => ⟨float conversion alternate precision x, true⟩
  | c =>
    let shown := if 31 < c.toNat ∧ c.toNat < 128 then c else '?'
    defect ("unsupported format character '" ++ String.singleton shown ++ "' (0x"
      ++ String.ofList (Nat.toDigits 16 c.toNat) ++ ") at index " ++ toString place)

/-- A number split into its sign and the mark of its base, which fill characters follow, and the
rest. -/
def splitSign (flags : List Char) (cs : List Char) : List Char × List Char :=
  let (sign, body) := match cs with
    | '-' :: r => (['-'], r)
    | r => (if flags.contains '+' then ['+'] else if flags.contains ' ' then [' '] else [], r)
  match body with
  | '0' :: c :: r =>
    if flags.contains '#' && (c == 'x' || c == 'X' || c == 'o') then (sign ++ ['0', c], r)
    else (sign, body)
  | r => (sign, r)

/-- Text filled up to a least width: with zeros after the sign, or with spaces on one side. -/
def pad (flags : List Char) (width : Nat) (left : Bool) (s : Shown) : List Char :=
  let (sign, body) := if s.numeric then splitSign flags s.text else ([], s.text)
  let gap := width - (sign.length + body.length)
  if left then sign ++ body ++ List.replicate gap ' '
  else if s.numeric && flags.contains '0' then sign ++ List.replicate gap '0' ++ body
  else List.replicate gap ' ' ++ sign ++ body

/-! ### Showing a template -/

/-- The arguments of a template: those not yet taken, and the map that keys refer to. -/
structure Args where
  pending : List Value
  named : Option Mapping

/-- Takes the next argument. -/
def next (args : Args) : Outcome (Value × Args) :=
  match args.pending with
  | v :: rest => .ok (v, { args with pending := rest })
  | [] => mismatch "not enough arguments for format string"

/-- What a size is for: its name, and the word that it has to fit into. -/
structure Measure where
  name : String
  wordName : String
  bits : Nat

/-- The least width of a directive. -/
def widthMeasure : Measure := ⟨"width", "ssize_t", 63⟩

/-- The precision of a directive. -/
def precisionMeasure : Measure := ⟨"precision", "int", 31⟩

/-- A size among the arguments, which has to fit into its word. -/
def fitting (what : Measure) (n : Int) : Outcome Int :=
  if -Nat.pow 2 what.bits ≤ n ∧ n < Nat.pow 2 what.bits then .ok n
  else .error (.overflow ("Python int too large to convert to C " ++ what.wordName))

/-- A size: as it is written out, or the next argument. -/
def takeSize (what : Measure) (size : Option Size) (args : Args) : Outcome (Option Int × Args) :=
  match size with
  | none => .ok (none, args)
  | some (.given n) =>
    if n < Nat.pow 2 what.bits then .ok (some n, args) else defect (what.name ++ " too big")
  | some .argument => do
    match ← next args with
    | (.int n, args) => return (some (← fitting what n), args)
    | (.bool b, args) => return (some (if b then 1 else 0), args)
    | _ => mismatch "* wants int"

/-- Makes the value of a key the only argument. -/
def takeKey (key : Option (Option String)) (args : Args) : Outcome Args :=
  match key with
  | none => .ok args
  | some k =>
    match args.named with
    | none => mismatch "format requires a mapping"
    | some m =>
      match k with
      | none => defect "incomplete format key"
      | some k =>
        match m.field? k with
        | some v => .ok { args with pending := [v] }
        | none => .error (.missingKey (.text k))

/-- Shows one directive. -/
def showDirective (d : Directive) (args : Args) : Outcome (List Char × Args) := do
  let args ← takeKey d.key args
  let (width, args) ← takeSize widthMeasure d.width args
  let (precision, args) ← takeSize precisionMeasure d.precision args
  match d.conversion with
  | none => defect "incomplete format"
  | some c =>
    let (v, args) ← next args
    let shown ← convert c d.place d.flags (precision.map Int.toNat) v
    let width := width.getD 0
    let left := d.flags.contains '-' || width < 0
    return (pad d.flags width.natAbs left shown, args)

/-- Shows the pieces one after another; arguments that are left over are a fault, unless they were
given by name. -/
def showPieces : List Piece → Args → Outcome (List Char)
  | [], args =>
    if args.named.isNone && !args.pending.isEmpty then
      mismatch "not all arguments converted during string formatting"
    else .ok []
  | .literal c :: rest, args => do return c :: (← showPieces rest args)
  | .directive d :: rest, args => do
    let (shown, args) ← showDirective d args
    return shown ++ (← showPieces rest args)

/-- The arguments of a message: a single map that is not empty gives them by name. -/
def Args.ofValues : List Value → Args
  | [.map m] => if m.isEmpty then ⟨[.map m], none⟩ else ⟨[.map m], some m⟩
  | vs => ⟨vs, none⟩

/-- A template with its arguments filled in. -/
def format (template : String) (args : List Value) : Outcome String :=
  (showPieces (pieces template) (Args.ofValues args)).map String.ofList

end Template

end BoundSql.Log
