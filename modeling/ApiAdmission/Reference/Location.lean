import ApiAdmission.Url.Join
import ApiAdmission.World.RealPath

/-!
# Where a reference leads

The part of a reference before the number sign names a document.  A web address names itself.
Otherwise the part is read against the location of the document that contains the reference: against
a web address as a relative address, and against a path as a path from its directory, made real.
Without a location only an absolute path names a document.
-/

namespace ApiAdmission.Reference

set_option autoImplicit false

/-- Why a reference names no document. -/
inductive LocationFault where
  /-- A relative reference has nothing to be relative to. -/
  | noBase (part : String)
  /-- The location cannot be worked out. -/
  | breakdown (breakdown : Breakdown)
deriving DecidableEq, Repr

/-- The location of the document that a part names, from the location of the document around it. -/
def locate (files : FileSystem) (base : Option String) (part : String) :
    Except LocationFault String :=
  if isWebAddress part then .ok part
  else
    match base with
    | some base =>
      if isWebAddress base then (Url.join base part).mapError .breakdown
      else
        let path := (Path.ofText base).parent.join (Path.ofText part)
        match files.realPath path with
        | .ok real => .ok real.text
        | .error breakdown => .error (.breakdown breakdown)
    | none => if (Path.ofText part).isAbsolute then .ok part else .error (.noBase part)

end ApiAdmission.Reference
