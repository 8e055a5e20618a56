import CredentialBroker.TokenService.Message

/-!
A token service that answers by a script: each call first takes some time and then either issues
credentials or refuses. Main statements: no call adds more than one to the count of issuing calls,
and one that answers with a response adds one, whether or not the response is of use.
-/

namespace CredentialBroker

open Time

/-- When issued credentials expire: at a given time, or so many microseconds after the call began. -/
inductive Expiry where
  | fixed (timestamp : Timestamp)
  | after (micros : Int)
deriving DecidableEq

inductive Reply where
  | issue (expiry : Expiry) (omitted : List ResponseKey)
  | refuse (refusal : Refusal)
deriving DecidableEq

structure Script where
  delay : Int
  reply : Reply
deriving DecidableEq

/-- An hour of life, no delay and a complete response. -/
def Script.standard : Script :=
  ⟨0, .issue (.after 3600000000) []⟩

/-- The texts that go with the number of an issuing call. -/
structure Mint where
  accessKey : Nat → String
  secretKey : Nat → String
  sessionToken : Nat → String

def Mint.standard : Mint where
  accessKey number := s!"ASIA{number}"
  secretKey number := s!"secret-{number}"
  sessionToken number := s!"token-{number}"

def Mint.respond (mint : Mint) (number : Nat) (expiration : Timestamp)
    (omitted : List ResponseKey) : TokenResponse :=
  let present (key : ResponseKey) : Bool := !omitted.contains key
  let block : ResponseBlock := {
    accessKeyId := if present .accessKeyId then some (mint.accessKey number) else none
    secretAccessKey := if present .secretAccessKey then some (mint.secretKey number) else none
    sessionToken := if present .sessionToken then some (mint.sessionToken number) else none
    expiration := if present .expiration then some expiration else none }
  ⟨if present .credentials then some block else none⟩

def Expiry.timestamp (expiry : Expiry) (start : WallTime) : Except CalendarOverflow Timestamp :=
  match expiry with
  | .fixed timestamp => .ok timestamp
  | .after micros => (start.shift micros).map fun wall => (Moment.ofUtc wall).timestamp

structure TokenService where
  mint : Mint
  script : Script
  issued : Nat

def TokenService.start (mint : Mint) : TokenService :=
  ⟨mint, .standard, 0⟩

inductive CallError where
  | refused (refusal : Refusal)
  | overflow (error : CalendarOverflow)
deriving DecidableEq

/-- What a call leaves behind: the reply, the service and the clock when the reply is there. -/
structure TokenCall where
  reply : Except CallError TokenResponse
  service : TokenService
  clock : WallTime

def TokenService.call (service : TokenService) (start : WallTime) : TokenCall :=
  match start.shift service.script.delay with
  | .error overflow => ⟨.error (.overflow overflow), service, start⟩
  | .ok clock =>
    match service.script.reply with
    | .refuse refusal => ⟨.error (.refused refusal), service, clock⟩
    | .issue expiry omitted =>
      let number := service.issued + 1
      let reply := (expiry.timestamp start).map fun expiration =>
        service.mint.respond number expiration omitted
      ⟨reply.mapError .overflow, { service with issued := number }, clock⟩

@[simp]
theorem TokenService.call_mint (service : TokenService) (start : WallTime) :
    (service.call start).service.mint = service.mint := by
  unfold TokenService.call
  split
  · rfl
  · split <;> rfl

@[simp]
theorem TokenService.call_script (service : TokenService) (start : WallTime) :
    (service.call start).service.script = service.script := by
  unfold TokenService.call
  split
  · rfl
  · split <;> rfl

/-- A call adds at most one to the count of issuing calls. -/
theorem TokenService.issued_call (service : TokenService) (start : WallTime) :
    (service.call start).service.issued = service.issued ∨
      (service.call start).service.issued = service.issued + 1 := by
  unfold TokenService.call
  split
  · exact Or.inl rfl
  · split
    · exact Or.inl rfl
    · exact Or.inr rfl

theorem TokenService.issued_call_of_ok {service : TokenService} {start : WallTime}
    {response : TokenResponse} (hreply : (service.call start).reply = .ok response) :
    (service.call start).service.issued = service.issued + 1 := by
  unfold TokenService.call at hreply ⊢
  split at hreply
  · cases hreply
  · split at hreply
    · cases hreply
    · rfl

end CredentialBroker
