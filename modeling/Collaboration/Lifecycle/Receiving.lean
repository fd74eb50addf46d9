import Collaboration.Lifecycle.Replacement

/-! # A client while it handles datagrams

`ClientConnection` handles a datagram without a pause, and performs `start()` so. Here each
statement of `onNewDataReceived` is a step, and `start()` is three: its test, the new connection
thread, and the listener of that thread with the new broadcast threads. All other threads go on
in between. A receiver takes the bytes of a datagram.

`startConnection` is one step. An event of a connection thread, which sets its own status and
then `mNetWorkInfo`, is one step as well; a thread without a listener sets its own status
alone. -/

namespace Collaboration

open Transition

/-! ## The text of a datagram -/

/-- The charset of the platform, which agrees with ASCII where that is defined. -/
structure JString.Charset where
  getBytes : JString → List UInt8
  newString : List UInt8 → JString
  newString_getBytes : ∀ s : JString, (∀ u ∈ s, u < 128) → newString (getBytes s) = s
  getBytes_length : ∀ s : JString, (∀ u ∈ s, u < 128) → (getBytes s).length = s.length

/-- A charset of one byte for each character. -/
def JString.Charset.ascii : Charset where
  getBytes s := s.map UInt16.toUInt8
  newString bytes := bytes.map UInt8.toUInt16
  newString_getBytes s hs := by
    rw [List.map_map]
    refine (List.map_congr_left fun u hu => ?_).trans (List.map_id s)
    have hlt : u.toNat < 128 := UInt16.lt_iff_toNat_lt.mp (hs u hu)
    apply UInt16.toNat_inj.mp
    simp only [Function.comp_apply, UInt8.toNat_toUInt16, UInt16.toNat_toUInt8, id]
    omega
  getBytes_length s _ := List.length_map _

namespace BroadcastReceiveThread

/-- Longer datagrams are cut off. -/
def MAXREV : ℕ := 255

/-- What a receiver makes of the bytes that were sent. -/
def messageOf (charset : JString.Charset) (bytes : List UInt8) : JString :=
  charset.newString (bytes.take MAXREV)

end BroadcastReceiveThread

open BroadcastReceiveThread (messageOf)

/-! ## The client -/

/-- The statement of `Connection.onNewDataReceived` that comes next to a receiver: an
assignment, one of the two tests of `isConnected()`, the new thread, its listener, or its
start. -/
inductive HandlingPc where
  /-- before the assignment to `mServerIp` -/
  | addressing
  /-- before the assignment to `mServerPort` -/
  | parsing
  | testing
  | testingAgain
  | replacing
  | registering
  | starting
  deriving DecidableEq, Repr

/-- The statement of `start()` that comes next: its test, the new thread, or its listener. -/
inductive StartPc where
  | idle
  | replacing
  | registering
  deriving DecidableEq, Repr

/-- `mConnectionListener` tells which connection threads have a listener, and `attempts n` are
the connection attempts that the receiver `n` started. -/
structure ReceivingClient extends ClientConnection where
  mConnectionListener : ℕ → Bool
  handling : ℕ → HandlingPc
  starting : StartPc
  attempts : ℕ → List (Option JString × Int32)

/-- An event of `run()` while there is no listener. -/
def SocketClientConnectionThread.unheard (t : SocketClientConnectionThread) :
    Client.Label → Option SocketClientConnectionThread
  | .unauthorized _ =>
    if t.pc = .announcing then
      some { t with mConnectStatus := .unauthorized, pc := .testing }
    else none
  | .read _ data _ =>
    if t.pc = .reading then
      some (if data.isPass then { t with mConnectStatus := .connected, pc := .testing }
        else if data.isFailed then { t.stopConnection with pc := .testing }
        else { t with pc := .testing })
    else none
  | .disconnected _ =>
    if t.pc = .disconnecting then
      some { t with mConnectStatus := .disconnected, pc := .releasing }
    else none
  | _ => none

/-- The thread that an event comes from, which tells its listener if it has one. -/
def Client.Label.callsListener : Client.Label → Option ℕ
  | .unauthorized n | .read n _ _ | .disconnected n => some n
  | _ => none

namespace ReceivingClient

def new (cfg : ClientConfig) (free : Int32 → Bool) : ReceivingClient :=
  ⟨.new cfg free, fun _ => false, fun _ => .addressing, .idle, fun _ => []⟩

def announcedIp (messageStr : JString) : Option JString :=
  messageStr.substring 0 (messageStr.indexOf (JString.unit ':'))

def announcedPort (digits : JString.DigitTable) (messageStr : JString) : Option Int32 :=
  (messageStr.substring (messageStr.indexOf (JString.unit ':') + 1) messageStr.length).bind
    digits.parseInt

theorem announcedAddress_eq_some {digits : JString.DigitTable} {message ip : JString}
    {port : Int32} :
    ClientConnection.announcedAddress digits message = some (ip, port) ↔
      announcedIp message = some ip ∧ announcedPort digits message = some port := by
  simp only [ClientConnection.announcedAddress, announcedIp, announcedPort, Option.bind_eq_bind,
    Option.pure_def, Option.bind_eq_some_iff, Option.some.injEq, Prod.mk.injEq]
  constructor
  · rintro ⟨_, hip, _, hport, rfl, rfl⟩
    exact ⟨hip, hport⟩
  · rintro ⟨hip, hport⟩
    exact ⟨ip, hip, port, hport, rfl, rfl⟩

def setHandling (s : ReceivingClient) (n : ℕ) (pc : HandlingPc) : ReceivingClient :=
  { s with handling := Function.update s.handling n pc }

/-- `mSocketClientThread = new SocketClientConnectionThread(..)`. -/
def initThread (s : ReceivingClient) : ReceivingClient :=
  { s with
    client := s.client.initThread
    mConnectionListener := Function.update s.mConnectionListener s.client.created false }

/-- `mSocketClientThread.setNewMessageReceiveListener(this)`. -/
def setListener (s : ReceivingClient) : ReceivingClient :=
  { s with
    mConnectionListener :=
      Function.update s.mConnectionListener s.client.mSocketClientThread true }

/-- `onNewDataReceived` returns, or an exception ends the receiver. -/
def handled (s : ReceivingClient) (n : ℕ) (returns : Bool) : ReceivingClient :=
  { s.setHandling n .addressing with discovery := s.discovery.handled n returns }

@[simp] theorem setHandling_toClientConnection (s : ReceivingClient) (n : ℕ) (pc : HandlingPc) :
    (s.setHandling n pc).toClientConnection = s.toClientConnection := rfl

@[simp] theorem setHandling_attempts (s : ReceivingClient) (n : ℕ) (pc : HandlingPc) :
    (s.setHandling n pc).attempts = s.attempts := rfl

@[simp] theorem initThread_client (s : ReceivingClient) :
    s.initThread.client = s.client.initThread := rfl

@[simp] theorem initThread_discovery (s : ReceivingClient) :
    s.initThread.discovery = s.discovery := rfl

@[simp] theorem setListener_toClientConnection (s : ReceivingClient) :
    s.setListener.toClientConnection = s.toClientConnection := rfl

@[simp] theorem handled_client (s : ReceivingClient) (n : ℕ) (returns : Bool) :
    (s.handled n returns).client = s.client := rfl

@[simp] theorem handled_attempts (s : ReceivingClient) (n : ℕ) (returns : Bool) :
    (s.handled n returns).attempts = s.attempts := rfl

/-- `startConnection` of the current thread. For a thread that was started before, `start()`
throws after the assignments. -/
def startConnection (s : ReceivingClient) (n : ℕ) : ReceivingClient :=
  let thread :=
    { s.client.current with mServerPort := s.mServerPort, mServerIp := s.mServerIp }
  if s.client.current.pc = .created then
    { s.handled n true with
      client := s.client.setThread s.client.mSocketClientThread { thread with pc := .started }
      attempts := Function.update s.attempts n (s.attempts n ++ [(s.mServerIp, s.mServerPort)]) }
  else
    { s.handled n false with
      client := s.client.setThread s.client.mSocketClientThread thread }

theorem startConnection_client (s : ReceivingClient) (n : ℕ) :
    (s.startConnection n).client =
      s.client.setThread s.client.mSocketClientThread
        { s.client.current with
          mServerPort := s.mServerPort
          mServerIp := s.mServerIp
          pc := if s.client.current.pc = .created then .started else s.client.current.pc } := by
  unfold startConnection
  simp only
  split
  · rfl
  · rfl

/-- The next statement of `onNewDataReceived` on the receiver `n`. -/
def onNewDataReceived (digits : JString.DigitTable) (s : ReceivingClient) (n : ℕ)
    (messageStr : JString) : ReceivingClient :=
  match s.handling n with
  | .addressing =>
    match announcedIp messageStr with
    | some serverIp => { s.setHandling n .parsing with mServerIp := some serverIp }
    | none => s.handled n false
  | .parsing =>
    match announcedPort digits messageStr with
    | some serverPort => { s.setHandling n .testing with mServerPort := serverPort }
    | none => s.handled n false
  | .testing =>
    if s.client.current.isConnected then s.handled n true else s.setHandling n .testingAgain
  | .testingAgain =>
    s.setHandling n (if s.client.current.isConnected then .starting else .replacing)
  | .replacing => s.initThread.setHandling n .registering
  | .registering => s.setListener.setHandling n .starting
  | .starting => s.startConnection n

inductive Label where
  | start
  /-- the next statement of a call of `start()` that is past its test -/
  | startNext
  | receive (n : ℕ) (bytes : List UInt8)
  | handle (n : ℕ)
  | connection (l : ClientConnection.Label)
  deriving DecidableEq, Repr

/-- The steps of `ClientConnection` that are not taken apart here. -/
def isShared : ClientConnection.Label → Bool
  | .start | .handle _ | .discovery (.receiver _ (.receive _)) => false
  | _ => true

/-- The thread without a listener that a step is an event of. -/
def unheard (s : ReceivingClient) : ClientConnection.Label → Option (ℕ × Client.Label)
  | .client l => (l.callsListener.filter fun n => !s.mConnectionListener n).map (·, l)
  | _ => none

def step (cfg : ClientConfig) (digits : JString.DigitTable) (charset : JString.Charset)
    (s : ReceivingClient) : Label → Option ReceivingClient
  | .start =>
    if s.stopping = .idle ∧ s.starting = .idle then
      some (if s.client.mNetWorkInfo.mStatus = .connected then s
        else { s with starting := .replacing })
    else none
  | .startNext =>
    match s.starting with
    | .idle => none
    | .replacing => some { s.initThread with starting := .registering }
    | .registering =>
      some { s.setListener with
        discovery :=
          s.discovery.restart (·.mThreadRuning) cfg.CLIENT_BROADCAST_THREAD_PORT
            (.lit "New_Client_In")
        starting := .idle }
  | .receive n bytes =>
    (s.discovery.step (.receiver n (.receive (messageOf charset bytes)))).map fun d =>
      { s.setHandling n .addressing with discovery := d }
  | .handle n =>
    match (s.discovery.receivers n).pc with
    | .handling message => some (s.onNewDataReceived digits n message)
    | _ => none
  | .connection l =>
    if isShared l = true ∧ ¬(l = .stop ∧ s.starting ≠ .idle) then
      match s.unheard l with
      | some (n, event) =>
        ((s.client.threads n).unheard event).map fun x =>
          { s with client := s.client.setThread n x }
      | none =>
        (s.toClientConnection.step cfg digits l).map fun t => { s with toClientConnection := t }
    else none

variable {cfg : ClientConfig} {digits : JString.DigitTable} {charset : JString.Charset}
  {s t : ReceivingClient}

inductive Steps (cfg : ClientConfig) (digits : JString.DigitTable) (charset : JString.Charset)
    (s : ReceivingClient) : Label → ReceivingClient → Prop
  | start (hstatus : s.client.mNetWorkInfo.mStatus ≠ .connected) :
      Steps cfg digits charset s .start { s with starting := .replacing }
  | startConnected : Steps cfg digits charset s .start s
  | startReplaces (hat : s.starting = .replacing) :
      Steps cfg digits charset s .startNext { s.initThread with starting := .registering }
  | startRegisters (hat : s.starting = .registering) :
      Steps cfg digits charset s .startNext
        { s.setListener with
          discovery :=
            s.discovery.restart (·.mThreadRuning) cfg.CLIENT_BROADCAST_THREAD_PORT
              (.lit "New_Client_In")
          starting := .idle }
  | receive {n : ℕ} {bytes : List UInt8} {d : Discovery}
      (hstep : s.discovery.step (.receiver n (.receive (messageOf charset bytes))) = some d) :
      Steps cfg digits charset s (.receive n bytes)
        { s.setHandling n .addressing with discovery := d }
  | addresses {n : ℕ} {message serverIp : JString} (hat : s.handling n = .addressing)
      (hpc : (s.discovery.receivers n).pc = .handling message)
      (hip : announcedIp message = some serverIp) :
      Steps cfg digits charset s (.handle n)
        { s.setHandling n .parsing with mServerIp := some serverIp }
  | unaddressed {n : ℕ} {message : JString} (hat : s.handling n = .addressing)
      (hpc : (s.discovery.receivers n).pc = .handling message)
      (hip : announcedIp message = none) :
      Steps cfg digits charset s (.handle n) (s.handled n false)
  | parses {n : ℕ} {message : JString} {serverPort : Int32} (hat : s.handling n = .parsing)
      (hpc : (s.discovery.receivers n).pc = .handling message)
      (hport : announcedPort digits message = some serverPort) :
      Steps cfg digits charset s (.handle n)
        { s.setHandling n .testing with mServerPort := serverPort }
  | unparsed {n : ℕ} {message : JString} (hat : s.handling n = .parsing)
      (hpc : (s.discovery.receivers n).pc = .handling message)
      (hport : announcedPort digits message = none) :
      Steps cfg digits charset s (.handle n) (s.handled n false)
  | returns {n : ℕ} {message : JString} (hat : s.handling n = .testing)
      (hpc : (s.discovery.receivers n).pc = .handling message)
      (hconnected : s.client.current.isConnected = true) :
      Steps cfg digits charset s (.handle n) (s.handled n true)
  | tests {n : ℕ} {message : JString} (hat : s.handling n = .testing)
      (hpc : (s.discovery.receivers n).pc = .handling message)
      (hconnected : s.client.current.isConnected = false) :
      Steps cfg digits charset s (.handle n) (s.setHandling n .testingAgain)
  | testsAgain {n : ℕ} {message : JString} (hat : s.handling n = .testingAgain)
      (hpc : (s.discovery.receivers n).pc = .handling message) :
      Steps cfg digits charset s (.handle n)
        (s.setHandling n (if s.client.current.isConnected then .starting else .replacing))
  | replaces {n : ℕ} {message : JString} (hat : s.handling n = .replacing)
      (hpc : (s.discovery.receivers n).pc = .handling message) :
      Steps cfg digits charset s (.handle n) (s.initThread.setHandling n .registering)
  | registers {n : ℕ} {message : JString} (hat : s.handling n = .registering)
      (hpc : (s.discovery.receivers n).pc = .handling message) :
      Steps cfg digits charset s (.handle n) (s.setListener.setHandling n .starting)
  | starts {n : ℕ} {message : JString} (hat : s.handling n = .starting)
      (hpc : (s.discovery.receivers n).pc = .handling message) :
      Steps cfg digits charset s (.handle n) (s.startConnection n)
  | connection {l : ClientConnection.Label} {c : ClientConnection} (hl : isShared l = true)
      (hheard : s.unheard l = none) (hstep : s.toClientConnection.step cfg digits l = some c) :
      Steps cfg digits charset s (.connection l) { s with toClientConnection := c }
  | unheard {n : ℕ} {l : Client.Label} {x : SocketClientConnectionThread}
      (hcalls : l.callsListener = some n) (hunheard : s.mConnectionListener n = false)
      (hx : (s.client.threads n).unheard l = some x) :
      Steps cfg digits charset s (.connection (.client l))
        { s with client := s.client.setThread n x }

theorem steps_of_onNewDataReceived {n : ℕ} {message : JString}
    (hpc : (s.discovery.receivers n).pc = .handling message) :
    Steps cfg digits charset s (.handle n) (s.onNewDataReceived digits n message) := by
  unfold onNewDataReceived
  split
  · rename_i hat
    split
    · rename_i serverIp hip
      exact .addresses hat hpc hip
    · rename_i hip
      exact .unaddressed hat hpc hip
  · rename_i hat
    split
    · rename_i serverPort hport
      exact .parses hat hpc hport
    · rename_i hport
      exact .unparsed hat hpc hport
  · rename_i hat
    split
    · rename_i hconnected
      exact .returns hat hpc hconnected
    · rename_i hconnected
      exact .tests hat hpc (by simpa using hconnected)
  · rename_i hat
    exact .testsAgain hat hpc
  · rename_i hat
    exact .replaces hat hpc
  · rename_i hat
    exact .registers hat hpc
  · rename_i hat
    exact .starts hat hpc

/-- A step is an event of a thread without a listener, or it is none. -/
theorem unheard_eq_some_iff {l : ClientConnection.Label} {n : ℕ} {event : Client.Label} :
    s.unheard l = some (n, event) ↔
      l = .client event ∧ event.callsListener = some n ∧ s.mConnectionListener n = false := by
  cases l with
  | client l =>
      simp only [unheard, Option.map_eq_some_iff, Option.filter_eq_some_iff, Prod.mk.injEq,
        ClientConnection.Label.client.injEq, Bool.not_eq_true']
      constructor
      · rintro ⟨_, ⟨hcalls, hunheard⟩, rfl, rfl⟩
        exact ⟨rfl, hcalls, hunheard⟩
      · rintro ⟨rfl, hcalls, hunheard⟩
        exact ⟨n, ⟨hcalls, hunheard⟩, rfl, rfl⟩
  | start | stop | stopNext | discovery | handle => simp [unheard]

theorem steps_of_step {l : Label} (h : s.step cfg digits charset l = some t) :
    Steps cfg digits charset s l t := by
  cases l with
  | start =>
      simp only [step, Option.ite_none_right_eq_some, Option.some.injEq] at h
      obtain ⟨-, rfl⟩ := h
      split
      · exact .startConnected
      · rename_i hstatus
        exact .start hstatus
  | startNext =>
      simp only [step] at h
      split at h
      · cases h
      · rename_i hat
        obtain rfl := Option.some.inj h
        exact .startReplaces hat
      · rename_i hat
        obtain rfl := Option.some.inj h
        exact .startRegisters hat
  | receive n bytes =>
      obtain ⟨d, hd, rfl⟩ := Option.map_eq_some_iff.mp h
      exact .receive hd
  | handle n =>
      simp only [step] at h
      split at h
      · rename_i message hpc
        obtain rfl := Option.some.inj h
        exact steps_of_onNewDataReceived hpc
      · cases h
  | connection l =>
      simp only [step, Option.ite_none_right_eq_some] at h
      obtain ⟨⟨hl, -⟩, h⟩ := h
      split at h
      · rename_i n event hunheard
        obtain ⟨rfl, hcalls, hlistener⟩ := unheard_eq_some_iff.mp hunheard
        obtain ⟨x, hx, rfl⟩ := Option.map_eq_some_iff.mp h
        exact .unheard hcalls hlistener hx
      · rename_i hheard
        obtain ⟨c, hc, rfl⟩ := Option.map_eq_some_iff.mp h
        exact .connection hl hheard hc

/-! ## Which threads are heard -/

/-- Whatever runs has a listener. -/
def Heard (s : ReceivingClient) : Prop :=
  ∀ n, (s.client.threads n).isAlive = true → s.mConnectionListener n = true

/-- The step calls `startConnection`. -/
def starts (s : ReceivingClient) : Label → Bool
  | .handle n => s.handling n = .starting
  | _ => false

theorem heard_new (cfg : ClientConfig) (free : Int32 → Bool) : Heard (new cfg free) := by
  intro n hn
  simp [new, ClientConnection.new, Client.constructed, Client.init,
    SocketClientConnectionThread.new, SocketClientConnectionThread.isAlive] at hn

theorem Heard.initThread (h : Heard s) : Heard s.initThread := by
  intro n hn
  by_cases hnew : n = s.client.created
  · subst hnew
    simp [ReceivingClient.initThread, Client.initThread, SocketClientConnectionThread.new,
      SocketClientConnectionThread.isAlive] at hn
  · simp only [ReceivingClient.initThread, Function.update_of_ne hnew]
    refine h n ?_
    simpa [ReceivingClient.initThread, Client.initThread, Client.setThread, hnew] using hn

theorem Heard.setListener (h : Heard s) : Heard s.setListener := by
  intro n hn
  by_cases hcurrent : n = s.client.mSocketClientThread
  · subst hcurrent
    simp [ReceivingClient.setListener]
  · simpa [ReceivingClient.setListener, hcurrent] using h n hn

theorem Heard.startConnection (h : Heard s)
    (hcurrent : s.mConnectionListener s.client.mSocketClientThread = true) (n : ℕ) :
    Heard (s.startConnection n) := by
  have hlistener : (s.startConnection n).mConnectionListener = s.mConnectionListener := by
    unfold ReceivingClient.startConnection
    simp only
    split <;> rfl
  intro m hm
  rw [hlistener]
  by_cases heq : m = s.client.mSocketClientThread
  · rw [heq]
    exact hcurrent
  · refine h m ?_
    simpa [startConnection_client, Client.setThread, heq] using hm

theorem Heard.connection (h : Heard s) {l : ClientConnection.Label} {c : ClientConnection}
    (hl : isShared l = true) (hs : s.toClientConnection.step cfg digits l = some c) :
    Heard { s with toClientConnection := c } := by
  have hstarts : s.startsThread digits l = false := by
    cases l with
    | handle => simp [isShared] at hl
    | _ => rfl
  exact fun n hn => h n (ClientConnection.isAlive_of_not_startsThread hs hstarts hn)

/-- A thread that has an event is alive. -/
theorem isAlive_of_callsListener {l : Client.Label} {c d : Client} {n : ℕ}
    (hl : l.callsListener = some n) (hs : c.step cfg l = some d) :
    (c.threads n).isAlive = true := by
  cases Client.steps_of_step hs with
  | unauthorized hpc | read hpc | disconnected hpc =>
      obtain rfl := Option.some.inj hl
      simp [SocketClientConnectionThread.isAlive, hpc]
  | _ => simp [Client.Label.callsListener] at hl

theorem isAlive_of_unheard {x y : SocketClientConnectionThread} {l : Client.Label}
    (h : x.unheard l = some y) : x.isAlive = true := by
  cases l with
  | unauthorized | read | disconnected =>
      simp only [SocketClientConnectionThread.unheard, Option.ite_none_right_eq_some] at h
      simp [SocketClientConnectionThread.isAlive, h.1]
  | announced | thread | sendDataToTarget | stop =>
      simp [SocketClientConnectionThread.unheard] at h

/-- Every event is heard. -/
theorem Heard.unheard_eq_none (h : Heard s) {l : ClientConnection.Label} {c : ClientConnection}
    (hs : s.toClientConnection.step cfg digits l = some c) : s.unheard l = none := by
  rw [Option.eq_none_iff_forall_ne_some]
  rintro ⟨n, event⟩ hunheard
  obtain ⟨rfl, hcalls, hlistener⟩ := unheard_eq_some_iff.mp hunheard
  cases ClientConnection.steps_of_step hs with
  | client _ hstep =>
      simp [h n (isAlive_of_callsListener hcalls hstep)] at hlistener

/-- Threads that are started with their listener are all heard. -/
theorem Heard.of_step {l : Label} (h : Heard s) (hs : s.step cfg digits charset l = some t)
    (hstarts : s.starts l = true → s.mConnectionListener s.client.mSocketClientThread = true) :
    Heard t := by
  cases steps_of_step hs with
  | startReplaces | replaces => exact h.initThread
  | startRegisters | registers => exact h.setListener
  | @starts n _ hat => exact h.startConnection (hstarts (by simp [starts, hat])) n
  | connection hl _ hstep => exact h.connection hl hstep
  | @unheard n _ _ _ hunheard hx => simp [h n (isAlive_of_unheard hx)] at hunheard
  | start | startConnected | receive | addresses | unaddressed | parses | unparsed | returns
  | tests | testsAgain => exact h

/-! ## Without a pause

Where nothing else happens in between, a datagram is handled, and `start()` performed, as
`ClientConnection` has it. -/

/-- No receiver is inside `onNewDataReceived`, no call of `start()` past its test, and whatever
runs has a listener. -/
structure Rests (s : ReceivingClient) : Prop where
  handling : ∀ n, s.handling n = .addressing
  starting : s.starting = .idle
  heard : Heard s

theorem rests_new (cfg : ClientConfig) (free : Int32 → Bool) : Rests (new cfg free) :=
  ⟨fun _ => rfl, rfl, heard_new cfg free⟩

theorem step_handle {n : ℕ} {message : JString}
    (hpc : (s.discovery.receivers n).pc = .handling message) :
    s.step cfg digits charset (.handle n) = some (s.onNewDataReceived digits n message) := by
  simp [step, hpc]

/-- The receiver `n` takes its next statements with nothing else in between. -/
theorem exec_handle_cons {n : ℕ} {message : JString}
    (hpc : (s.discovery.receivers n).pc = .handling message)
    (h : s.onNewDataReceived digits n message = t) (ls : List Label) :
    exec (step cfg digits charset) s (.handle n :: ls) = exec (step cfg digits charset) t ls := by
  rw [exec_cons, step_handle hpc, Option.bind_some, h]

theorem Rests.of_update (h : Rests s) (n : ℕ) (pc : HandlingPc) (ht : t.starting = s.starting)
    (hhandling : t.handling = Function.update (Function.update s.handling n pc) n .addressing)
    (hheard : Heard t) : Rests t := by
  refine ⟨fun m => ?_, ht.trans h.starting, hheard⟩
  rw [hhandling, Function.update_idem]
  by_cases hm : m = n
  · subst hm
    simp
  · simpa [hm] using h.handling m

/-- The new thread has its listener before it is started. -/
theorem Heard.attempt (h : Heard s) {ip : JString} {port : Int32}
    (hclient : t.client = s.client.onServerAnnounced ip port)
    (hconnected : s.client.current.isConnected = false)
    (hlistener : t.mConnectionListener =
      Function.update s.mConnectionListener s.client.created true) : Heard t := by
  intro m hm
  rw [hlistener]
  by_cases hnew : m = s.client.created
  · subst hnew
    simp
  · rw [Function.update_of_ne hnew]
    refine h m ?_
    simpa [hclient, Client.onServerAnnounced, hconnected, Client.setThread, hnew] using hm

/-- A connection attempt: from the test to the start of the new thread. -/
theorem exec_attempt {n : ℕ} {message ip : JString}
    (hpc : (s.discovery.receivers n).pc = .handling message) (hat : s.handling n = .testing)
    (hip : s.mServerIp = some ip) (hconnected : s.client.current.isConnected = false) :
    ∃ t, exec (step cfg digits charset) s (List.replicate 5 (.handle n)) = some t ∧
      t.toClientConnection = { s.toClientConnection with
        client := s.client.onServerAnnounced ip s.mServerPort
        discovery := s.discovery.handled n true } ∧
      t.starting = s.starting ∧
      t.handling = Function.update s.handling n .addressing ∧
      t.mConnectionListener = Function.update s.mConnectionListener s.client.created true := by
  have htest : s.onNewDataReceived digits n message = s.setHandling n .testingAgain := by
    simp [onNewDataReceived, hat, hconnected]
  have htestAgain : (s.setHandling n .testingAgain).onNewDataReceived digits n message =
      s.setHandling n .replacing := by
    simp [onNewDataReceived, setHandling, hconnected]
  let v : ReceivingClient := (s.setHandling n .replacing).initThread.setHandling n .registering
  have hreplace : (s.setHandling n .replacing).onNewDataReceived digits n message = v := by
    simp [onNewDataReceived, setHandling, v]
  let u : ReceivingClient := v.setListener.setHandling n .starting
  have hregister : v.onNewDataReceived digits n message = u := by
    simp [onNewDataReceived, setHandling, v, u]
  have hat' : u.handling n = .starting := Function.update_self n _ _
  have hstart : u.onNewDataReceived digits n message = u.startConnection n := by
    simp [onNewDataReceived, hat']
  have hcreated : u.client.current = .new := Client.setThread_threads_self _ _ _
  have hpc' : u.client.current.pc = .created := by rw [hcreated]; rfl
  have hclient : u.client.setThread u.client.mSocketClientThread
      { u.client.current with
        mServerPort := u.mServerPort, mServerIp := u.mServerIp, pc := .started } =
      s.client.onServerAnnounced ip s.mServerPort := by
    have hport : u.mServerPort = s.mServerPort := rfl
    have hip' : u.mServerIp = some ip := hip
    rw [hcreated, hport, hip']
    simp [u, v, setListener, setHandling, initThread, Client.onServerAnnounced, hconnected,
      Client.initThread, Client.setThread, SocketClientConnectionThread.startConnection]
  refine ⟨u.startConnection n, ?_, ?_, ?_, ?_, ?_⟩
  · simp only [List.replicate]
    rw [exec_handle_cons hpc htest,
      exec_handle_cons (s := s.setHandling n .testingAgain) hpc htestAgain,
      exec_handle_cons (s := s.setHandling n .replacing) hpc hreplace,
      exec_handle_cons (s := v) hpc hregister, exec_handle_cons (s := u) hpc hstart, exec_nil]
  · simp only [startConnection, if_pos hpc', hclient]
    rfl
  · simp only [startConnection, if_pos hpc']
    rfl
  · simp only [startConnection, if_pos hpc']
    simp [handled, setHandling, setListener, initThread, u, v]
  · simp only [startConnection, if_pos hpc']
    exact Function.update_idem _ _ _

/-- A text that is no address ends the receiver, with `mServerIp` assigned if only the port is
missing. -/
theorem Rests.exec_unaddressed (h : Rests s) {n : ℕ} {message : JString}
    (hpc : (s.discovery.receivers n).pc = .handling message)
    (haddress : ClientConnection.announcedAddress digits message = none) :
    ∃ ls t, exec (step cfg digits charset) s ls = some t ∧
      t.toClientConnection = s.toClientConnection.onNewDataReceived digits n message ∧ Rests t := by
  have hat := h.handling n
  cases hip : announcedIp message with
  | none =>
      have hend : s.onNewDataReceived digits n message = s.handled n false := by
        simp [onNewDataReceived, hat, hip]
      refine ⟨[.handle n], _, exec_handle_cons hpc hend [], ?_,
        h.of_update n .addressing rfl (by simp [handled, setHandling]) h.heard⟩
      unfold announcedIp at hip
      simp [ClientConnection.onNewDataReceived, hip, handled, setHandling]
  | some ip =>
      have hport : announcedPort digits message = none := by
        by_contra hport
        obtain ⟨port, hport⟩ := Option.ne_none_iff_exists'.mp hport
        simp [announcedAddress_eq_some.mpr ⟨hip, hport⟩] at haddress
      let s1 : ReceivingClient := { s.setHandling n .parsing with mServerIp := some ip }
      have hassign : s.onNewDataReceived digits n message = s1 := by
        simp [onNewDataReceived, hat, hip, s1]
      have hat1 : s1.handling n = .parsing := Function.update_self n _ _
      have hend : s1.onNewDataReceived digits n message = s1.handled n false := by
        simp [onNewDataReceived, hat1, hport]
      refine ⟨[.handle n, .handle n], _, (exec_handle_cons hpc hassign _).trans
        (exec_handle_cons (s := s1) hpc hend []), ?_, h.of_update n .parsing rfl rfl h.heard⟩
      unfold announcedIp at hip
      unfold announcedPort at hport
      simp [ClientConnection.onNewDataReceived, hip, hport, handled, setHandling, s1]

/-- An address is assigned, and then attempted unless the client is connected. -/
theorem Rests.exec_addressed (h : Rests s) {n : ℕ} {message ip : JString} {port : Int32}
    (hpc : (s.discovery.receivers n).pc = .handling message)
    (haddress : ClientConnection.announcedAddress digits message = some (ip, port)) :
    ∃ ls t, exec (step cfg digits charset) s ls = some t ∧
      t.toClientConnection = s.toClientConnection.onNewDataReceived digits n message ∧ Rests t := by
  obtain ⟨hip, hport⟩ := announcedAddress_eq_some.mp haddress
  rw [ClientConnection.onNewDataReceived_of_some haddress]
  let s1 : ReceivingClient := { s.setHandling n .parsing with mServerIp := some ip }
  have hassign : s.onNewDataReceived digits n message = s1 := by
    simp [onNewDataReceived, h.handling n, hip, s1]
  have hat1 : s1.handling n = .parsing := Function.update_self n _ _
  let s2 : ReceivingClient := { s1.setHandling n .testing with mServerPort := port }
  have hassign' : s1.onNewDataReceived digits n message = s2 := by
    simp [onNewDataReceived, hat1, hport, s2]
  have hrun : ∀ ls, exec (step cfg digits charset) s (.handle n :: .handle n :: ls) =
      exec (step cfg digits charset) s2 ls := fun ls =>
    (exec_handle_cons hpc hassign _).trans (exec_handle_cons (s := s1) hpc hassign' ls)
  have hat2 : s2.handling n = .testing := Function.update_self n _ _
  cases hconnected : s.client.current.isConnected with
  | true =>
      have hend : s2.onNewDataReceived digits n message = s2.handled n true := by
        have hconnected' : s2.client.current.isConnected = true := hconnected
        simp [onNewDataReceived, hat2, hconnected']
      refine ⟨_, _, (hrun [.handle n]).trans (exec_handle_cons (s := s2) hpc hend []), ?_,
        h.of_update n .testing rfl ?_ h.heard⟩
      · simp [Client.onServerAnnounced, hconnected, handled, s2, s1]
      · simp [handled, setHandling, s2, s1]
  | false =>
      obtain ⟨t, ht, hconnection, hstarting, hhandling, hlistener⟩ :=
        exec_attempt (s := s2) hpc hat2 rfl hconnected
      have hclient : t.client = s.client.onServerAnnounced ip port :=
        congrArg ClientConnection.client hconnection
      refine ⟨_, t, (hrun _).trans ht, hconnection, h.of_update n .testing hstarting ?_
        (h.heard.attempt hclient hconnected hlistener)⟩
      simp [hhandling, s2, s1, setHandling]

/-- The statements of `onNewDataReceived`, one after the other. -/
theorem Rests.exec_handle (h : Rests s) {n : ℕ} {message : JString}
    (hpc : (s.discovery.receivers n).pc = .handling message) :
    ∃ ls t, exec (step cfg digits charset) s ls = some t ∧
      t.toClientConnection = s.toClientConnection.onNewDataReceived digits n message ∧ Rests t := by
  cases haddress : ClientConnection.announcedAddress digits message with
  | none => exact h.exec_unaddressed hpc haddress
  | some address => exact h.exec_addressed hpc haddress

theorem Rests.exec_start (h : Rests s) (hidle : s.stopping = .idle) :
    ∃ ls t, exec (step cfg digits charset) s ls = some t ∧
      t.toClientConnection = s.toClientConnection.start cfg ∧ Rests t := by
  by_cases hstatus : s.client.mNetWorkInfo.mStatus = .connected
  · refine ⟨[.start], s, ?_, ?_, h⟩
    · simp [step, hidle, h.starting, hstatus]
    · simp [ClientConnection.start, hstatus]
  · have hstart : s.step cfg digits charset .start = some { s with starting := .replacing } := by
      simp [step, hidle, h.starting, hstatus]
    refine ⟨[.start, .startNext, .startNext],
      { s.initThread.setListener with
        toClientConnection := s.toClientConnection.start cfg, starting := .idle }, ?_, rfl,
      h.handling, rfl, fun m hm => ?_⟩
    · rw [exec_cons, hstart, Option.bind_some]
      simp [exec_cons, step, ClientConnection.start, hstatus, initThread, setListener]
    · refine h.heard.initThread.setListener m ?_
      simpa [ClientConnection.start, hstatus, initThread, setListener] using hm

/-- Every step of `ClientConnection` is a run of the finer model, if a received text is that of
some datagram. -/
theorem Rests.exec_of_step (h : Rests s) {l : ClientConnection.Label} {c : ClientConnection}
    (hs : s.toClientConnection.step cfg digits l = some c)
    (htext : ∀ n message, l = .discovery (.receiver n (.receive message)) →
      ∃ bytes, messageOf charset bytes = message) :
    ∃ ls t, exec (step cfg digits charset) s ls = some t ∧ t.toClientConnection = c ∧ Rests t := by
  have hshared : isShared l = true → ∃ ls t, exec (step cfg digits charset) s ls = some t ∧
      t.toClientConnection = c ∧ Rests t := by
    intro hl
    refine ⟨[.connection l], { s with toClientConnection := c }, ?_, rfl, h.handling, h.starting,
      h.heard.connection hl hs⟩
    simp [step, hl, h.starting, h.heard.unheard_eq_none hs, hs]
  cases l with
  | start =>
      simp only [ClientConnection.step, Option.ite_none_right_eq_some, Option.some.injEq] at hs
      obtain ⟨hidle, rfl⟩ := hs
      exact h.exec_start hidle
  | handle n =>
      simp only [ClientConnection.step] at hs
      split at hs
      · rename_i message hpc
        obtain rfl := Option.some.inj hs
        exact h.exec_handle hpc
      · cases hs
  | stop | stopNext | client => exact hshared rfl
  | discovery l =>
      cases l with
      | sender => exact hshared rfl
      | receiver n l =>
          cases l with
          | bind | run | receiveFails => exact hshared rfl
          | receive message =>
              obtain ⟨bytes, rfl⟩ := htext n message rfl
              obtain ⟨d, hd, rfl⟩ := Option.map_eq_some_iff.mp hs
              refine ⟨[.receive n bytes], { s.setHandling n .addressing with discovery := d }, ?_,
                rfl, fun m => ?_, h.starting, h.heard⟩
              · simp [step, hd]
              · by_cases hm : m = n
                · subst hm
                  simp [setHandling]
                · simpa [setHandling, hm] using h.handling m

/-- The runs of `ClientConnection` are runs of the finer model. -/
theorem exec_of_exec (h : Rests s) {ls : List ClientConnection.Label} {c : ClientConnection}
    (he : exec (ClientConnection.step cfg digits) s.toClientConnection ls = some c)
    (htext : ∀ n message, .discovery (.receiver n (.receive message)) ∈ ls →
      ∃ bytes, messageOf charset bytes = message) :
    ∃ ms t, exec (step cfg digits charset) s ms = some t ∧ t.toClientConnection = c ∧ Rests t := by
  induction ls generalizing s with
  | nil => exact ⟨[], s, rfl, by simpa using he, h⟩
  | cons l ls ih =>
      obtain ⟨d, hd, he⟩ := exec_cons_eq_some.mp he
      obtain ⟨ms, u, hms, rfl, hu⟩ := h.exec_of_step hd fun n message hl =>
        htext n message (hl ▸ List.mem_cons_self)
      obtain ⟨ms', t, hms', ht⟩ := ih hu he fun n message hl =>
        htext n message (List.mem_cons_of_mem _ hl)
      exact ⟨ms ++ ms', t, by rw [exec_append, hms, Option.bind_some, hms'], ht⟩

/-- A started client whose first receiver listens. -/
def listening : List Label :=
  [.start, .startNext, .startNext, .connection (.discovery (.receiver 0 (.bind true))),
    .connection (.discovery (.receiver 0 .run)), .connection (.discovery (.receiver 0 .run)),
    .connection (.discovery (.receiver 0 .run))]

/-- That receiver takes a datagram in ASCII and handles it without a pause. -/
def discovered (message : JString) : List Label :=
  .receive 0 (JString.Charset.ascii.getBytes message) :: List.replicate 7 (.handle 0)

end ReceivingClient

end Collaboration
