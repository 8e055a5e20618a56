/-!
Connecting to the token service. Where a region is known, the client is bound to the endpoint of
that region, since the tokens of a regional endpoint are good in every region.
-/

namespace CredentialBroker

structure ClientConfig where
  maxAttempts : Nat
  retryMode : String
  userAgentExtra : String
deriving DecidableEq

def ClientConfig.forUserAgent (userAgentExtra : String) : ClientConfig :=
  ⟨10, "standard", userAgentExtra⟩

structure Endpoint where
  region : String
  url : String
deriving DecidableEq

/-- The Chinese partition has a domain of its own. -/
def Endpoint.inPartition (region : String) (partition : Option String) : Endpoint :=
  if partition = some "aws-cn" then ⟨region, s!"https://sts.{region}.amazonaws.com.cn"⟩
  else ⟨region, s!"https://sts.{region}.amazonaws.com"⟩

structure ClientOptions where
  service : String
  config : ClientConfig
  endpoint : Option Endpoint
deriving DecidableEq

inductive SessionCall where
  | findPartition (region : String)
  | createClient (options : ClientOptions)
deriving DecidableEq

/-- No partition is known for the region. -/
structure UnknownRegion where
  region : String
  reason : String
deriving DecidableEq

def UnknownRegion.message (unknown : UnknownRegion) : String :=
  s!"Unknown region: '{unknown.region}'. {unknown.reason}"

/-- The account session that clients are created in: its region, and its answer when asked for the partition. -/
structure RegionSession where
  region : Option String
  partition : Except String (Option String)

/-- Whether a client could be created, and the calls made on the session for it. -/
structure Connection where
  outcome : Except UnknownRegion Unit
  calls : List SessionCall

def RegionSession.connect (session : RegionSession) (userAgentExtra : String) : Connection :=
  let client (endpoint : Option Endpoint) : SessionCall :=
    .createClient ⟨"sts", .forUserAgent userAgentExtra, endpoint⟩
  match session.region.filter fun region => !region.isEmpty with
  | none => ⟨.ok (), [client none]⟩
  | some region =>
    match session.partition with
    | .error reason => ⟨.error ⟨region, reason⟩, [.findPartition region]⟩
    | .ok partition =>
      ⟨.ok (), [.findPartition region, client (some (.inPartition region partition))]⟩

end CredentialBroker
