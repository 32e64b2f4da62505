import WinBack.Library.Substitution
import WinBack.Outbox.System

/-! The hourly limit on generations: the counter that a script keeps in Redis, the calls that raise
it, and the handlers of transitions that ask it first. -/

namespace WinBack.RateLimiter

open Library
open Generation (AiGenerateJobPayload)
open Outbox (DrainerContext IncrementAndCheckResult Thrown)

def incrWithTtlLua : String :=
"local count = redis.call('INCR', KEYS[1])
if count == 1 then
  redis.call('EXPIRE', KEYS[1], ARGV[1])
end
return count"

def hourTtlSeconds : Nat := 3600

def hourBucketMs : Int := 3_600_000

/-- `_hourBucketForTesting`. -/
def hourBucket (now : Date) : Int := now / hourBucketMs

def rateKey (merchantId : MerchantId) (bucket : Int) : String := "ai:gen:rate:" ++ merchantId ++ ":" ++ toString bucket

/-- What the limiter asks of its client, of the clock and of the digest that the process caches.
`report` is what a caller gets back; it reaches nothing. -/
inductive RedisCall where
  | clock
  | cachedScriptSha
  | setCachedScriptSha (sha : String)
  | scriptLoad (script : String)
  | evalsha (sha key : String) (ttlSeconds : Nat)
  | report (merchantId : MerchantId) (bucket : Int) (result : IncrementAndCheckResult)

@[reducible] def RedisCall.Value : RedisCall → Type
  | .clock => Date
  | .cachedScriptSha => Option String
  | .scriptLoad _ => String
  | .evalsha _ _ _ => Int
  | .setCachedScriptSha _ | .report _ _ _ => Unit

inductive Call where
  | handler (request : Outbox.Call)
  | redis (request : RedisCall)

@[reducible] def Call.Value : Call → Type
  | .handler request => request.Value
  | .redis request => request.Value

abbrev Program := Script Call Call.Value Thrown

def perform (request : RedisCall) : Program request.Value := Script.perform (Call.redis request)

section Limiter

/-- The reply to a digest that the server does not know. No other error has the word in it. -/
def noScript : Thrown := .other "NOSCRIPT No matching script. Please use EVAL."

def loadScript : Program String := do
  let sha ← perform (.scriptLoad incrWithTtlLua)
  perform (.setCachedScriptSha sha)
  return sha

/-- `cachedScriptSha ??= await loadScript(client)`. -/
def scriptSha : Program String := do
  match ← perform .cachedScriptSha with
  | some sha => return sha
  | none => loadScript

def evalIncrWithTtl (key : String) : Program Int := do
  let sha ← scriptSha
  tryCatch (perform (.evalsha sha key hourTtlSeconds)) fun thrown =>
    if thrown = noScript then do
      let sha ← loadScript
      perform (.evalsha sha key hourTtlSeconds)
    else throw thrown

def incrementAndCheck (merchantId : MerchantId) (capPerHour : Int) : Program IncrementAndCheckResult := do
  let now ← perform .clock
  let bucket := hourBucket now
  let currentCount ← evalIncrWithTtl (rateKey merchantId bucket)
  let result := { allowed := decide (currentCount ≤ capPerHour), currentCount }
  perform (.report merchantId bucket result)
  return result

/-- A handler asks the limiter for its hourly count, and the store for everything else. -/
def implement : (request : Outbox.Call) → Program request.Value
  | .incrementAndCheck merchantId capPerHour => incrementAndCheck merchantId capPerHour
  | request => Script.perform (Call.handler request)

def handleCustomerStateChanged (context : DrainerContext) (row : OutboxEvent) : Program Unit :=
  (Outbox.handleCustomerStateChanged context row).carriedOut implement

end Limiter

section Redis

structure Counter where
  count : Int
  expiresAt : Option Date := none
  deriving DecidableEq, Repr

structure Redis where
  scripts : List String := []
  counters : String → Option Counter := fun _ => none

/-- A key is there up to its expiry. -/
def Redis.get (now : Date) (key : String) (redis : Redis) : Option Counter :=
  (redis.counters key).filter fun counter => counter.expiresAt.all fun expiresAt => decide (now ≤ expiresAt)

/-- The script, atomically. -/
def Redis.incrWithTtl (now : Date) (key : String) (ttlSeconds : Nat) (redis : Redis) : Int × Redis :=
  let prior := redis.get now key
  let count := (prior.map (·.count)).getD 0 + 1
  let expiresAt := if count = 1 then some (now + ttlSeconds * 1000) else prior.bind (·.expiresAt)
  (count, { redis with counters := Function.update redis.counters key (some { count, expiresAt }) })

end Redis

section System

/-- One run of the script, for a caller. -/
structure Increment where
  caller : Nat
  key : String
  count : Int
  deriving DecidableEq, Repr

structure Answer where
  caller : Nat
  merchantId : MerchantId
  bucket : Int
  result : IncrementAndCheckResult
  deriving DecidableEq, Repr

structure Created where
  caller : Nat
  merchantId : MerchantId
  deriving DecidableEq, Repr

/-- What one caller sees. `increments`, `answers` and `generations` are histories that no call reads. -/
structure View where
  db : Db
  jobs : List AiGenerateJobPayload := []
  redis : Redis := {}
  cached : Option String := none
  clock : Date
  increments : List Increment := []
  answers : List Answer := []
  generations : List Created := []

/-- A command whose connection breaks is not sent again; it may have been carried out. -/
structure Choice where
  outbox : Outbox.Choice := {}
  fails : Bool := false
  lost : Bool := false

def Choice.answer {Result : Type} (choice : Choice) (result : Result) : Except Thrown Result :=
  if choice.lost then .error Outbox.connectionLost else .ok result

/-- A handler holds no transaction between its calls. -/
def View.outbox (view : View) : Outbox.View where
  db := view.db
  jobs := view.jobs
  transaction := none
  locked := []
  created := []

def View.returned (view : View) (caller : Nat) (request : Outbox.Call) (after : Outbox.View) : View :=
  { view with
    db := after.db
    jobs := after.jobs
    generations := match request with
      | .createGeneration _ merchantId _ _ =>
        if after.created = [] then view.generations else view.generations ++ [⟨caller, merchantId⟩]
      | _ => view.generations }

/-- The digest of the only script that the client loads. -/
def exec (digest : String → String) (caller : Nat) (view : View) (request : Call) (choice : Choice) :
    Option (Except Thrown request.Value × View) :=
  match request with
  | .handler request =>
    (Outbox.exec view.outbox request choice.outbox).map fun (answer, after) => (answer, view.returned caller request after)
  | .redis .clock => some (.ok view.clock, view)
  | .redis .cachedScriptSha => some (.ok view.cached, view)
  | .redis (.setCachedScriptSha sha) => some (.ok (), { view with cached := some sha })
  | .redis (.scriptLoad script) =>
    if choice.fails then some (.error Outbox.connectionLost, view)
    else some (choice.answer (digest script),
      { view with redis := { view.redis with scripts := digest script :: view.redis.scripts } })
  | .redis (.evalsha sha key ttlSeconds) =>
    if choice.fails then some (.error Outbox.connectionLost, view)
    else if sha ∈ view.redis.scripts then
      let (count, redis) := view.redis.incrWithTtl view.clock key ttlSeconds
      some (choice.answer count, { view with
        redis
        increments := view.increments ++ [⟨caller, key, count⟩] })
    else some (if choice.lost then .error Outbox.connectionLost else .error noScript, view)
  | .redis (.report merchantId bucket result) =>
    some (.ok (), { view with answers := view.answers ++ [⟨caller, merchantId, bucket, result⟩] })

end System

section Stages

/-- How far a handler is with its hourly check. -/
inductive Check where
  | unasked (settings : Option (MerchantId × Int))
  | granted (merchantId : MerchantId)
  | closed
  deriving DecidableEq, Repr

namespace Check

def next : Check → (request : Outbox.Call) → Except Thrown request.Value → Check
  | .unasked _, .query (.settings merchantId), .ok (some settings) =>
    .unasked (some (merchantId, settings.hourlyGenerationCap))
  | .unasked _, .incrementAndCheck merchantId _, .ok result => if result.allowed then .granted merchantId else .closed
  | .unasked _, .incrementAndCheck _ _, .error _ => .closed
  | .granted _, .createGeneration _ _ _ _, _ => .closed
  | check, _, _ => check

def allowed : Check → Outbox.Call → Prop
  | .unasked settings, .incrementAndCheck merchantId capPerHour => settings = some (merchantId, capPerHour)
  | .granted merchantId, .createGeneration _ owner _ _ => owner = merchantId
  | _, .incrementAndCheck _ _ | _, .createGeneration _ _ _ _ => False
  | _, _ => True

end Check

def checks : Discipline Outbox.Call Outbox.Call.Value Thrown Check where
  allowed := Check.allowed
  next := Check.next

/-- How far a caller is: between the calls of the handler, with a key (and whether it has reloaded the
script), or with the count that its one run of the script returned. -/
inductive Stage where
  | between (check : Check)
  | keyed (merchantId : MerchantId) (capPerHour bucket : Int) (reloaded : Bool)
  | counted (merchantId : MerchantId) (capPerHour bucket count : Int)
  deriving DecidableEq, Repr

namespace Stage

def next : Stage → (request : Call) → Except Thrown request.Value → Stage
  | .between check, .handler request, answer => .between (check.next request answer)
  | .between (.unasked (some (merchantId, capPerHour))), .redis .clock, .ok now =>
    .keyed merchantId capPerHour (hourBucket now) false
  | .keyed merchantId capPerHour bucket _, .redis (.evalsha _ _ _), .ok count =>
    .counted merchantId capPerHour bucket count
  | .keyed merchantId capPerHour bucket false, .redis (.evalsha _ _ _), .error thrown =>
    if thrown = noScript then .keyed merchantId capPerHour bucket true else .between .closed
  | .counted merchantId capPerHour _ count, .redis (.report _ _ _), .ok _ =>
    .between (if count ≤ capPerHour then .granted merchantId else .closed)
  | _, .redis _, .error _ => .between .closed
  | stage, _, _ => stage

def allowed : Stage → Call → Prop
  | .between _, .handler (.incrementAndCheck _ _) => False
  | .between check, .handler request => check.allowed request
  | .between (.unasked (some _)), .redis .clock => True
  | .keyed merchantId _ bucket _, .redis (.evalsha _ key ttlSeconds) =>
    key = rateKey merchantId bucket ∧ ttlSeconds = hourTtlSeconds
  | .keyed _ _ _ _, .redis .cachedScriptSha | .keyed _ _ _ _, .redis (.setCachedScriptSha _)
  | .keyed _ _ _ _, .redis (.scriptLoad _) => True
  | .counted merchantId capPerHour bucket count, .redis (.report owner hour result) =>
    owner = merchantId ∧ hour = bucket ∧ result = ⟨decide (count ≤ capPerHour), count⟩
  | _, _ => False

end Stage

def stages : Discipline Call Call.Value Thrown Stage where
  allowed := Stage.allowed
  next := Stage.next

end Stages

section Machine

/-- A call or a handler, with the process that it runs in. -/
abbrev Caller := Task Nat Call Call.Value Thrown Stage

structure World where
  db : Db
  jobs : List AiGenerateJobPayload := []
  redis : Redis := {}
  cached : Nat → Option String := fun _ => none    -- of each process
  clock : Date
  callers : Pool Caller := []
  increments : List Increment := []
  answers : List Answer := []
  generations : List Created := []

def World.view (world : World) (process : Nat) : View where
  db := world.db
  jobs := world.jobs
  redis := world.redis
  cached := world.cached process
  clock := world.clock
  increments := world.increments
  answers := world.answers
  generations := world.generations

inductive Label where
  | call (process : Nat) (merchantId : MerchantId) (capPerHour : Int)
  | transition (process : Nat) (row : OutboxEvent)
  | act (slot : Nat) (choice : Choice)
  | drop (slot : Nat)
  | restart (process : Nat)      -- its module state is gone
  | flushScripts
  | tick (now : Date)
  | outside (after : Db)

def Caller.act (digest : String → String) (slot : Nat) (choice : Choice) (world : World) (caller : Caller) : Option World :=
  (caller.advance stages (exec digest slot) (world.view caller.tag) choice).map fun (view, next) => { world with
    db := view.db
    jobs := view.jobs
    redis := view.redis
    cached := Function.update world.cached caller.tag view.cached
    callers := world.callers.put slot next
    increments := view.increments
    answers := view.answers
    generations := view.generations }

def machine (context : DrainerContext) (digest : String → String) : Machine World Label where
  step world
    | .call process merchantId capPerHour => some { world with
        callers := world.callers.spawn ⟨process, .between (.unasked (some (merchantId, capPerHour))),
          do let _ ← incrementAndCheck merchantId capPerHour⟩ }
    | .transition process row => some { world with
        callers := world.callers.spawn ⟨process, .between (.unasked none), handleCustomerStateChanged context row⟩ }
    | .act slot choice => (world.callers.task? slot).bind (Caller.act digest slot choice world)
    | .drop slot => (world.callers.task? slot).map fun _ => { world with callers := world.callers.clear slot }
    | .restart process => some { world with cached := Function.update world.cached process none }
    | .flushScripts => some { world with redis := { world.redis with scripts := [] } }
    | .tick now => if world.clock ≤ now then some { world with clock := now } else none
    | .outside after => some { world with db := after }

end Machine

end WinBack.RateLimiter
