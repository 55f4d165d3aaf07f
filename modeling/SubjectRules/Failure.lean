import SubjectRules.Json.Text

/-!
# Failures of rules

A violation names what went wrong by a code and may carry details.  A rule fails with
one violation or with a sequence of them; the two never coincide, not even for a
sequence of one.
-/

namespace SubjectRules

/-- What becomes of the parts in which a failure is written out. -/
structure Writer (ω : Type) where
  null : ω
  string : String → ω
  object : Json.Fields → ω
  list : List ω → ω

namespace Writer

def text : Writer String where
  null := "null"
  string := Json.quoted
  object fields := (Json.obj fields).text
  list parts := "[" ++ String.intercalate "," parts ++ "]"

def json : Writer Json where
  null := .null
  string := .str
  object := .obj
  list := .arr

end Writer

structure Violation where
  code : String
  extras : Option Json.Fields := none
  deriving Repr

namespace Violation

def withExtra (v : Violation) (key : String) (value : Json) : Violation :=
  { v with extras := some ((v.extras.getD []).insert key value) }

def toJson (v : Violation) : Json :=
  .arr [.str v.code, Json.ofOption (v.extras.map .obj)]

/-- The pair as it is written out, without being made a value first. -/
def write {ω : Type} (w : Writer ω) (v : Violation) : ω :=
  w.list [w.string v.code, (v.extras.map w.object).getD w.null]

def text (v : Violation) : String := v.write .text

/-- Equality; details compare without regard to the order of their keys. -/
def same (a b : Violation) : Bool :=
  a.code == b.code &&
    match a.extras, b.extras with
    | some x, some y => (Json.obj x).same (.obj y)
    | none, none => true
    | _, _ => false

def relabel (code : String) (v : Violation) : Violation := { v with code }

end Violation

inductive Failure where
  | one (violation : Violation)
  | many (violations : List Violation)
  deriving Repr

abbrev Verdict := Option Failure

namespace Failure

def ofCode (code : String) : Failure := .one ⟨code, none⟩

def violations : Failure → List Violation
  | .one v => [v]
  | .many vs => vs

def codes (f : Failure) : List String := f.violations.map Violation.code

def relabel (code : String) : Failure → Failure
  | .one v => .one (v.relabel code)
  | .many vs => .many (vs.map (Violation.relabel code))

/-- The wire form: a pair, or an array of pairs. -/
def toJson : Failure → Json
  | .one v => v.toJson
  | .many vs => .arr (vs.map Violation.toJson)

def write {ω : Type} (w : Writer ω) : Failure → ω
  | .one v => v.write w
  | .many vs => w.list (vs.map (Violation.write w))

def text (f : Failure) : String := f.write .text

def same : Failure → Failure → Bool
  | .one a, .one b => a.same b
  | .many as, .many bs => as.length == bs.length && (as.zip bs).all fun (a, b) => a.same b
  | _, _ => false

end Failure

end SubjectRules
