import BpmpPlatform.Library.Outcome

/-! # Requests of the control plane

Identifiers, times and addresses of a request, as the evaluation reads them.
-/
namespace BpmpPlatform.ControlPlane

structure Uuid where
  value : BitVec 128
  deriving DecidableEq

def Uuid.digits (id : Uuid) (first count : Nat) : List Char :=
  (List.range count).map fun i => Nat.digitChar (id.value.toNat / 16 ^ (31 - (first + i)) % 16)

def Uuid.text (id : Uuid) : String :=
  String.ofList (id.digits 0 8 ++ '-' :: id.digits 8 4 ++ '-' :: id.digits 12 4 ++ '-' :: id.digits 16 4
    ++ '-' :: id.digits 20 12)

structure TenantId where
  uuid : Uuid
  deriving DecidableEq

structure UserId where
  uuid : Uuid
  deriving DecidableEq

structure PermissionId where
  uuid : Uuid
  deriving DecidableEq

/-- A time of day: the second of the day and the nanoseconds, which pass `10 ^ 9` in a leap second. -/
structure NaiveTime where
  seconds : Nat
  nanoseconds : Nat
  seconds_lt : seconds < 86400

def NaiveTime.before (a b : NaiveTime) : Bool :=
  decide (a.seconds < b.seconds) || decide (a.seconds = b.seconds) && decide (a.nanoseconds < b.nanoseconds)

structure DateTime where
  seconds : Int
  nanoseconds : Nat

/-- `num_seconds_from_midnight`. -/
def DateTime.secondOfDay (time : DateTime) : Int := time.seconds % 86400

inductive IpAddr
  | v4 (address : BitVec 32)
  | v6 (address : BitVec 128)

structure EnvContext where
  requestTime : DateTime
  clientIp : Option IpAddr

inductive AuthzError
  | tenantNotFound (tenant : TenantId)
  | tenantInactive (tenant : TenantId)
  | userNotFound (user : UserId) (tenant : TenantId)
  | userDeactivated (user : UserId)
  | versionConflict (entity : String) (entityId : Uuid) (expectedVersion actualVersion : Int)
  | unsupportedOperator (operator nodeType : String)
  | reBacCircuitOpen (tenant : TenantId)
  | jitAttributeUnavailable (fetchSource key reason : String)
  | unsupportedFilterBackend (backend : String)
  | invalidRequest (reason : String)
  | database (message : String)
  | internal (message : String)
  deriving DecidableEq

/-- Functions of the libraries the evaluation calls: the texts of instants and addresses, the conversion of an instant
to a zone (no value when the zone has no such name), the containment of an address in a network (false when the network
cannot be read), and the regular expressions (no value when the pattern cannot be compiled). -/
structure Platform where
  rfc3339 : DateTime → String
  date : DateTime → String
  ipText : IpAddr → String
  localTime : String → DateTime → Option (Nat × NaiveTime)
  inNetwork : String → IpAddr → Bool
  regexIsMatch : String → String → Option Bool

namespace Sample

def uuid (n : Nat) : Uuid := ⟨BitVec.ofNat 128 n⟩

end Sample
end BpmpPlatform.ControlPlane
