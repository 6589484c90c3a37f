import GraphSearch.Digest.SipHash
import GraphSearch.Query.Basic
import GraphSearch.Value.Digest

/-!
The digest of a query, under which its count is kept.

It covers what is matched and the fragments, with the values of parameters in the place of their
names. Order and paging do not change the number of matches and are left out.
-/

namespace GraphSearch

open Encoding

/-- The bytes of the value of a parameter, if it is bound. -/
def parameterDigestInput (parameters : Dictionary Value) (name : String) : List UInt8 :=
  optional Value.digestInput (parameters.get? name)

def Part.digestInput (parameters : Dictionary Value) : Part → List UInt8
  | text s => Encoding.text s
  | parameter name => parameterDigestInput parameters name

/-- One byte for the kind of a fragment, then its content. -/
def Fragment.digestInput (parameters : Dictionary Value) : Fragment → List UInt8
  | and => [0]
  | or => [1]
  | not => [2]
  | opening => [3]
  | closing => [4]
  | clause (.simple key operator parameter ignoreCase isProperty) =>
    5 :: Encoding.text key ++ Encoding.text operator ++ flag ignoreCase ++ flag isProperty ++
      match parameter with
      | some name => parameterDigestInput parameters name
      | none => tag 0
  | clause (.composite parts) => 6 :: parts.flatMap (Part.digestInput parameters)

def EntityKind.digestInput : EntityKind → List UInt8
  | node => tag 0
  | relationship => tag 1

namespace Query

def digestInput (q : Query) : List UInt8 :=
  q.kind.digestInput ++ optional Encoding.text q.labels.type ++
    optional Encoding.text q.labels.source ++ optional Encoding.text q.labels.target ++
    q.fragments.flatMap (Fragment.digestInput q.parameters)

def digest (q : Query) : UInt64 :=
  sipHash q.digestInput

end Query

end GraphSearch
