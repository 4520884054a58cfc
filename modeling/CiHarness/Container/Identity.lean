/-!
# Host identity

Programs in a container run under the numeric user and group of the host user who started the
harness, so that the files they write belong to that user.
-/
namespace CiHarness

/-- A numeric user and group. -/
structure Identity where
  uid : UInt32
  gid : UInt32
  deriving DecidableEq

/-- The user option of a container runtime: user and group with a colon between them. -/
def Identity.userOption (i : Identity) : String := toString i.uid.toNat ++ ":" ++
    toString i.gid.toNat

end CiHarness
