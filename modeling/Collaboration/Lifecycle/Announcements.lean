import Collaboration.Lifecycle.Status
import Collaboration.Model.Text

/-! # What a client makes of the datagrams it receives

A payload of the form that servers announce starts one connection attempt, unless the client
changes while it is handled. Every other payload either ends the receiver with an exception or
changes the client. -/

namespace Collaboration

open JString Transition

/-! ## Announcements -/

/-- The form of an announcement: a non-empty address without a colon, and a port. -/
def WellFormed (payload ip : JString) (port : Int32) : Prop :=
  payload = ip ++ unit ':' :: ofInt port ∧ ip ≠ [] ∧ unit ':' ∉ ip

theorem WellFormed.colon_mem {payload ip : JString} {port : Int32}
    (h : WellFormed payload ip port) : unit ':' ∈ payload := by
  rw [h.1]
  simp

/-- A server with an address of that form announces it so. -/
theorem wellFormed_announcement {cfg : Config} {ip : JString} (hip : cfg.localHostIp = some ip)
    (hne : ip ≠ []) (hcolon : unit ':' ∉ ip) :
    WellFormed cfg.announcement ip cfg.SERVER_PORT := by
  refine ⟨?_, hne, hcolon⟩
  simp [Config.announcement, hip, valueOf, lit, unit]

theorem announcedAddress_of_wellFormed (digits : DigitTable) {payload ip : JString} {port : Int32}
    (h : WellFormed payload ip port) :
    ClientConnection.announcedAddress digits payload = some (ip, port) := by
  obtain ⟨rfl, -, hcolon⟩ := h
  have hport : substring (ip ++ unit ':' :: ofInt port) (ip.length + 1)
      (ip ++ unit ':' :: ofInt port).length = some (ofInt port) :=
    substringFrom_after ip (unit ':') (ofInt port)
  simp only [ClientConnection.announcedAddress, indexOf_append_cons hcolon,
    substring_append_left, hport, Option.bind_some, digits.parseInt_ofInt]
  rfl

theorem WellFormed.unique {payload ip ip' : JString} {port port' : Int32}
    (h : WellFormed payload ip port) (h' : WellFormed payload ip' port') :
    ip' = ip ∧ port' = port := by
  have heq := (announcedAddress_of_wellFormed .ascii h').symm.trans
    (announcedAddress_of_wellFormed .ascii h)
  exact Prod.mk.inj (Option.some.inj heq)

/-- An announcement in ASCII that fits into a datagram is read as it was meant. -/
theorem announcedAddress_announcement (charset : Charset) (digits : DigitTable) {cfg : Config}
    {ip : JString} (h : WellFormed cfg.announcement ip cfg.SERVER_PORT)
    (hascii : ∀ u ∈ cfg.announcement, u < 128)
    (hlength : cfg.announcement.length ≤ BroadcastReceiveThread.MAXREV) :
    ClientConnection.announcedAddress digits
        (BroadcastReceiveThread.messageOf charset (charset.getBytes cfg.announcement)) =
      some (ip, cfg.SERVER_PORT) := by
  have hbytes := charset.getBytes_length cfg.announcement hascii
  rw [BroadcastReceiveThread.messageOf, List.take_of_length_le (hbytes ▸ hlength),
    charset.newString_getBytes _ hascii]
  exact announcedAddress_of_wellFormed digits h

/-- The most statements that are still to come. -/
def HandlingPc.remaining : HandlingPc → ℕ
  | .addressing => 7
  | .parsing => 6
  | .testing => 5
  | .testingAgain => 4
  | .replacing => 3
  | .registering => 2
  | .starting => 1

namespace ReceivingClient

open BroadcastReceiveThread (messageOf)

variable {cfg : ClientConfig} {digits : DigitTable} {charset : Charset} {s t u : ReceivingClient}
  {n : ℕ} {message : JString}

/-! ## One datagram -/

/-- The receiver `n` is inside `onNewDataReceived`. -/
def isHandling (n : ℕ) (s : ReceivingClient) : Bool :=
  match (s.discovery.receivers n).pc with
  | .handling _ => true
  | _ => false

/-- The last step of the run takes the receiver `n` out of `onNewDataReceived`. -/
structure Handles (cfg : ClientConfig) (digits : DigitTable) (charset : Charset) (n : ℕ)
    (s : ReceivingClient) (ls : List Label) (t : ReceivingClient) : Prop where
  exec : exec (step cfg digits charset) s ls = some t
  inside : Along (step cfg digits charset) (fun s _ _ => s.isHandling n = true) s ls
  outside : t.isHandling n = false

/-- The receiver `n` keeps the address and the current thread. -/
def Keeps (n : ℕ) (s : ReceivingClient) (l : Label) (t : ReceivingClient) : Prop :=
  l = .handle n → t.mServerIp = s.mServerIp ∧ t.mServerPort = s.mServerPort ∧
    t.client.mSocketClientThread = s.client.mSocketClientThread

/-- A well-formed payload starts one attempt, to its address; any other leaves no trace and the
receiver goes on. -/
structure HandlesPayload (cfg : ClientConfig) (digits : DigitTable) (charset : Charset) (n : ℕ)
    (payload : JString) (s : ReceivingClient) (ls : List Label) (t : ReceivingClient) : Prop where
  wellFormed : ∀ ip port, WellFormed payload ip port →
    t.attempts n = s.attempts n ++ [(some ip, port)]
  other : (¬∃ ip port, WellFormed payload ip port) →
    Along (step cfg digits charset) (Keeps n) s ls ∧ (t.discovery.receivers n).pc = .testing

/-- The client is not connected at the first test, and `startConnection` finds a new thread and
this address. -/
def Undisturbed (n : ℕ) (ip : JString) (port : Int32) (s : ReceivingClient) (l : Label)
    (_ : ReceivingClient) : Prop :=
  l = .handle n →
    (s.handling n = .testing → s.client.current.isConnected = false) ∧
      (s.handling n = .starting → s.client.current.pc = .created ∧ s.mServerIp = some ip ∧
        s.mServerPort = port)

/-- The address is there already, the client is connected at the second test, if not at the
first one, and `startConnection` finds a new thread. -/
def Repeats (n : ℕ) (ip : JString) (port : Int32) (s : ReceivingClient) (l : Label)
    (_ : ReceivingClient) : Prop :=
  l = .handle n →
    (s.handling n = .addressing → s.mServerIp = some ip) ∧
      (s.handling n = .parsing → s.mServerPort = port) ∧
        (s.handling n = .testingAgain → s.client.current.isConnected = true) ∧
          (s.handling n = .starting → s.client.current.pc = .created)

/-! ### What the other threads leave alone -/

/-- The threads that exist, and the current thread, have numbers below the counts. -/
structure Numbered (s : ReceivingClient) : Prop where
  discovery : s.discovery.Numbered
  current : 0 < s.discovery.created ∨ s.starting = .registering →
    s.client.mSocketClientThread < s.client.created

theorem numbered_new (cfg : ClientConfig) (free : Int32 → Bool) : Numbered (new cfg free) where
  discovery := Discovery.numbered_new
  current := by simp [new, ClientConnection.new, Discovery.new]

theorem Numbered.connection {l : ClientConnection.Label} {c : ClientConnection}
    (h : s.Numbered) (hl : isShared l = true)
    (hs : s.toClientConnection.step cfg digits l = some c) :
    Numbered { s with toClientConnection := c } where
  discovery := ClientConnection.numbered_discovery h.discovery hs
  current := by
    cases ClientConnection.steps_of_step hs with
    | start | startConnected | malformed | announced => simp [isShared] at hl
    | stopClient =>
        unfold Client.stopClient
        split
        · exact h.current
        · exact h.current
    | stopReceive => exact (Discovery.moves_stopReceive s.discovery).created ▸ h.current
    | stopThread => exact s.discovery.stopThread_spec.2.1 ▸ h.current
    | discovery hstep => exact (Discovery.moves_of_step hstep).created ▸ h.current
    | client hconn hclient =>
        intro hcreated
        have hfield := (Client.reported_of_step hconn hclient).2.1
        exact Nat.lt_of_lt_of_le (hfield ▸ h.current hcreated) (Client.created_of_step hclient)
    | stop | stopUnconnected => exact h.current

theorem Numbered.handled (h : s.Numbered) (hpc : (s.discovery.receivers n).pc = .handling message)
    (returns : Bool) : Numbered (s.handled n returns) where
  discovery := h.discovery.moves (Discovery.moves_handled hpc returns)
  current := h.current

theorem numbered_step {l : Label} (h : s.Numbered) (hs : s.step cfg digits charset l = some t) :
    t.Numbered := by
  cases steps_of_step hs with
  | startReplaces => exact ⟨h.discovery, fun _ => Nat.lt_succ_self s.client.created⟩
  | startRegisters hat =>
      exact ⟨h.discovery.restart _ rfl _ _, fun _ => h.current (.inr hat)⟩
  | receive hstep =>
      have hmoves := Discovery.moves_of_step hstep
      exact ⟨h.discovery.moves hmoves, hmoves.created ▸ h.current⟩
  | unaddressed _ hpc | unparsed _ hpc => exact h.handled hpc false
  | returns _ hpc => exact h.handled hpc true
  | replaces => exact ⟨h.discovery, fun _ => Nat.lt_succ_self s.client.created⟩
  | unheard => exact ⟨h.discovery, h.current⟩
  | @starts m _ _ hpc =>
      unfold startConnection
      simp only
      split
      · exact ⟨(h.handled hpc true).discovery, h.current⟩
      · exact ⟨(h.handled hpc false).discovery, h.current⟩
  | connection hl _ hstep => exact h.connection hl hstep
  | start => exact ⟨h.discovery, fun hcreated => h.current (.inl (by simpa using hcreated))⟩
  | startConnected | addresses | parses | tests | testsAgain | registers =>
      exact ⟨h.discovery, h.current⟩

theorem Numbered.lt_created (h : s.Numbered)
    (hpc : (s.discovery.receivers n).pc = .handling message) : n < s.discovery.created := by
  by_contra hge
  have halive := (h.discovery n (Nat.le_of_not_lt hge)).1
  simp [BroadcastReceiveThread.isAlive, hpc] at halive

theorem handling_connection {l : ClientConnection.Label} {c : ClientConnection}
    (hl : isShared l = true) (hs : s.toClientConnection.step cfg digits l = some c)
    (hpc : (s.discovery.receivers n).pc = .handling message) :
    (c.discovery.receivers n).pc = .handling message := by
  cases ClientConnection.steps_of_step hs with
  | start | startConnected | malformed | announced => simp [isShared] at hl
  | stopReceive => exact (s.discovery.stopReceive_pc n).trans hpc
  | stopThread => exact s.discovery.stopThread_spec.1 ▸ hpc
  | discovery hstep => exact Discovery.handling_kept hpc hstep
  | stop | stopUnconnected | stopClient | client => exact hpc

theorem handled_of_ne {m : ℕ} (hm : n ≠ m) (returns : Bool) :
    ((s.handled m returns).discovery.receivers n).pc = (s.discovery.receivers n).pc := by
  simp [handled, Discovery.handled, Discovery.setReceiver, hm]

/-- Only the receiver itself goes on with its datagram. -/
theorem kept_of_ne {l : Label} (hnum : s.Numbered) (hs : s.step cfg digits charset l = some t)
    (hl : l ≠ .handle n) (hpc : (s.discovery.receivers n).pc = .handling message) :
    (t.discovery.receivers n).pc = .handling message ∧ t.handling n = s.handling n ∧
      t.attempts n = s.attempts n := by
  have hne : ∀ m, Label.handle m ≠ .handle n → n ≠ m := fun m hm heq => hm (heq ▸ rfl)
  cases steps_of_step hs with
  | start | startConnected | startReplaces | unheard => exact ⟨hpc, rfl, rfl⟩
  | startRegisters =>
      obtain ⟨hreceivers, -⟩ := s.discovery.restart_spec (·.mThreadRuning)
        rfl cfg.CLIENT_BROADCAST_THREAD_PORT (.lit "New_Client_In")
      refine ⟨?_, rfl, rfl⟩
      simpa [hreceivers, Nat.ne_of_lt (hnum.lt_created hpc)] using hpc
  | @receive m bytes d hstep =>
      have hm : n ≠ m := by
        rintro rfl
        simp [Discovery.step, BroadcastReceiveThread.step_of_handling hpc] at hstep
      exact ⟨Discovery.handling_kept hpc hstep, by simp [setHandling, hm], rfl⟩
  | @addresses m | @parses m | @tests m | @testsAgain m =>
      exact ⟨hpc, by simp [setHandling, hne m hl], rfl⟩
  | @replaces m | @registers m =>
      exact ⟨hpc, by simp [setHandling, initThread, setListener, hne m hl], rfl⟩
  | @unaddressed m | @unparsed m | @returns m =>
      exact ⟨(handled_of_ne (hne m hl) _).trans hpc, by simp [handled, setHandling, hne m hl], rfl⟩
  | @starts m =>
      have hm := hne m hl
      unfold startConnection
      simp only
      split
      · exact ⟨(handled_of_ne hm true).trans hpc, by simp [handled, setHandling, hm],
          by simp [hm]⟩
      · exact ⟨(handled_of_ne hm false).trans hpc, by simp [handled, setHandling, hm], rfl⟩
  | connection hshared _ hstep => exact ⟨handling_connection hshared hstep hpc, rfl, rfl⟩

/-! ### From the first statement to the last -/

theorem isHandling_of_pc (hpc : (s.discovery.receivers n).pc = .handling message) :
    s.isHandling n = true := by
  simp [isHandling, hpc]

theorem isHandling_handled (s : ReceivingClient) (n : ℕ) (returns : Bool) :
    (s.handled n returns).isHandling n = false := by
  cases returns <;> simp [isHandling, handled, Discovery.handled]

theorem isHandling_startConnection (s : ReceivingClient) (n : ℕ) :
    (s.startConnection n).isHandling n = false := by
  unfold startConnection
  simp only
  split
  · exact s.isHandling_handled n true
  · exact s.isHandling_handled n false

/-- A receiver that stays inside keeps its datagram. -/
theorem pc_of_handle (hs : s.step cfg digits charset (.handle n) = some t)
    (hpc : (s.discovery.receivers n).pc = .handling message) (ht : t.isHandling n = true) :
    (t.discovery.receivers n).pc = .handling message := by
  cases steps_of_step hs with
  | unaddressed | unparsed | returns => simp [isHandling_handled] at ht
  | starts => simp [isHandling_startConnection] at ht
  | addresses | parses | tests | testsAgain | replaces | registers => exact hpc

/-- What holds of the last statement, and of the rest of a run if it holds after the next step,
holds of the whole run. -/
theorem Handles.rule {G : ReceivingClient → List Label → Prop}
    (hother : ∀ s l u ls, s.step cfg digits charset l = some u → l ≠ .handle n →
      u.handling n = s.handling n → u.attempts n = s.attempts n → G u ls → G s (l :: ls))
    (hgoes : ∀ s u ls, s.Numbered → (s.discovery.receivers n).pc = .handling message →
      s.step cfg digits charset (.handle n) = some u → u.isHandling n = true → G u ls →
        G s (.handle n :: ls))
    (hends : ∀ s, (s.discovery.receivers n).pc = .handling message →
      s.step cfg digits charset (.handle n) = some t → t.isHandling n = false →
        G s [.handle n])
    {ls : List Label} (hnum : s.Numbered) (hpc : (s.discovery.receivers n).pc = .handling message)
    (h : Handles cfg digits charset n s ls t) : G s ls := by
  induction ls generalizing s with
  | nil =>
      obtain rfl : s = t := by simpa using h.exec
      exact absurd h.outside (by simp [isHandling_of_pc hpc])
  | cons l ls ih =>
      obtain ⟨u, hu, he⟩ := exec_cons_eq_some.mp h.exec
      have hinside := ((along_cons_of_step hu ls).mp h.inside).2
      by_cases hl : l = .handle n
      · subst hl
        cases hcase : u.isHandling n with
        | true =>
            have hpc' := pc_of_handle hu hpc hcase
            exact hgoes s u ls hnum hpc hu hcase
              (ih (numbered_step hnum hu) hpc' ⟨he, hinside, h.outside⟩)
        | false =>
            cases ls with
            | nil =>
                obtain rfl : u = t := by simpa using he
                exact hends s hpc hu hcase
            | cons l' ls =>
                obtain ⟨v, hv, -⟩ := exec_cons_eq_some.mp he
                have hu' := ((along_cons_of_step hv ls).mp hinside).1
                simp [hcase] at hu'
      · obtain ⟨hpc', hhandling, hattempts⟩ := kept_of_ne hnum hu hl hpc
        exact hother s l u ls hu hl hhandling hattempts
          (ih (numbered_step hnum hu) hpc' ⟨he, hinside, h.outside⟩)

/-- A receiver inside `onNewDataReceived` waits for nobody. -/
theorem handle_isSome (hpc : (s.discovery.receivers n).pc = .handling message) :
    (s.step cfg digits charset (.handle n)).isSome = true := by
  simp [step, hpc]

/-- It leaves with its seventh statement at the latest. -/
theorem Handles.count_le {ls : List Label} (hnum : s.Numbered)
    (hpc : (s.discovery.receivers n).pc = .handling message)
    (h : Handles cfg digits charset n s ls t) :
    ls.count (.handle n) ≤ (s.handling n).remaining := by
  refine Handles.rule (G := fun s ls => ls.count (.handle n) ≤ (s.handling n).remaining)
    ?_ ?_ ?_ hnum hpc h
  · intro s l u ls _ hl hhandling _ ih
    rwa [List.count_cons_of_ne hl, ← hhandling]
  · intro s u ls _ _ hs hu ih
    rw [List.count_cons_self]
    cases steps_of_step hs with
    | unaddressed | unparsed | returns => simp [isHandling_handled] at hu
    | starts => simp [isHandling_startConnection] at hu
    | addresses hat | parses hat | tests hat | replaces hat | registers hat =>
        simp only [setHandling, Function.update_self, HandlingPc.remaining, hat] at ih ⊢
        omega
    | testsAgain hat =>
        simp only [setHandling, Function.update_self, hat] at ih ⊢
        split at ih
        · simp only [HandlingPc.remaining] at ih ⊢
          omega
        · simp only [HandlingPc.remaining] at ih ⊢
          omega
  · intro s _ _ _
    cases s.handling n <;> simp [HandlingPc.remaining]

theorem message_eq {message' : JString} (hpc : (s.discovery.receivers n).pc = .handling message)
    (hpc' : (s.discovery.receivers n).pc = .handling message') : message = message' := by
  simpa [hpc] using hpc'

/-- Where the address and the port can be read, the one attempt is made if and only if nothing
comes in between. -/
theorem attempts_iff {ip : JString} {port : Int32} {ls : List Label} (hnum : s.Numbered)
    (hpc : (s.discovery.receivers n).pc = .handling message)
    (haddress : (ClientConnection.announcedAddress digits message).isSome = true)
    (h : Handles cfg digits charset n s ls t) :
    t.attempts n = s.attempts n ++ [(some ip, port)] ↔
      Along (step cfg digits charset) (Undisturbed n ip port) s ls := by
  obtain ⟨⟨ip', port'⟩, haddress⟩ := Option.isSome_iff_exists.mp haddress
  obtain ⟨hip', hport'⟩ := announcedAddress_eq_some.mp haddress
  refine Handles.rule (G := fun s ls => t.attempts n = s.attempts n ++ [(some ip, port)] ↔
    Along (step cfg digits charset) (Undisturbed n ip port) s ls) ?_ ?_ ?_ hnum hpc h
  · intro s l u ls hs hl _ hattempts ih
    have hother : Undisturbed n ip port s l u := fun heq => absurd heq hl
    rw [along_cons_of_step hs, and_iff_right hother, ← ih, hattempts]
  · intro s u ls _ _ hs hu ih
    rw [along_cons_of_step hs, ← ih]
    cases steps_of_step hs with
    | unaddressed | unparsed | returns => simp [isHandling_handled] at hu
    | starts => simp [isHandling_startConnection] at hu
    | addresses hat | parses hat | testsAgain hat => simp [Undisturbed, hat]
    | replaces hat | registers hat => simp [Undisturbed, hat, initThread, setListener]
    | tests hat _ hconnected => simp [Undisturbed, hat, hconnected]
  · intro s hpc hs ht
    rw [along_cons_of_step hs, and_iff_left (along_nil t)]
    cases steps_of_step hs with
    | addresses | parses | tests | testsAgain | replaces | registers =>
        simp [isHandling, setHandling, hpc] at ht
    | unaddressed _ hpc' hip =>
        obtain rfl := message_eq hpc hpc'
        simp [hip'] at hip
    | unparsed _ hpc' hport =>
        obtain rfl := message_eq hpc hpc'
        simp [hport'] at hport
    | returns hat _ hconnected => simp [Undisturbed, hat, hconnected]
    | starts hat =>
        simp only [Undisturbed, hat, true_implies]
        unfold startConnection
        simp only
        split
        · rename_i hcreated
          simp [hcreated]
        · rename_i hcreated
          simp [hcreated]

/-- Where they cannot be read, the receiver ends. -/
theorem ends_of_unannounced {ls : List Label} (hnum : s.Numbered)
    (hpc : (s.discovery.receivers n).pc = .handling message)
    (hat : s.handling n = .addressing)
    (haddress : ClientConnection.announcedAddress digits message = none)
    (h : Handles cfg digits charset n s ls t) :
    t.attempts n = s.attempts n ∧ (t.discovery.receivers n).pc = .closing := by
  refine Handles.rule (G := fun s _ => s.handling n = .addressing ∨
      s.handling n = .parsing ∧ announcedPort digits message = none →
    t.attempts n = s.attempts n ∧ (t.discovery.receivers n).pc = .closing) ?_ ?_ ?_ hnum hpc h
      (.inl hat)
  · intro s l u ls _ _ hhandling hattempts ih
    rwa [hhandling, hattempts] at ih
  · intro s u ls _ hpc hs hu ih hstart
    cases steps_of_step hs with
    | unaddressed | unparsed | returns => simp [isHandling_handled] at hu
    | starts => simp [isHandling_startConnection] at hu
    | addresses _ hpc' hip =>
        obtain rfl := message_eq hpc hpc'
        have hport : announcedPort digits message = none := by
          by_contra hport
          obtain ⟨port, hport⟩ := Option.ne_none_iff_exists'.mp hport
          simp [announcedAddress_eq_some.mpr ⟨hip, hport⟩] at haddress
        exact ih (.inr ⟨by simp [setHandling], hport⟩)
    | parses hat hpc' hport =>
        obtain rfl := message_eq hpc hpc'
        simp [hat, hport] at hstart
    | tests hat | testsAgain hat | replaces hat | registers hat => simp [hat] at hstart
  · intro s hpc hs ht hstart
    cases steps_of_step hs with
    | addresses | parses | tests | testsAgain | replaces | registers =>
        simp [isHandling, setHandling, hpc] at ht
    | unaddressed | unparsed =>
        exact ⟨rfl, by simp [handled, Discovery.handled]⟩
    | returns hat | starts hat => simp [hat] at hstart

/-- A statement after which the receiver is still inside, and that is no replacement, keeps what
it finds if and only if the datagram says that; no such datagram comes to a replacement. -/
theorem keeps_iff_repeats {ip : JString} {port : Int32}
    (hpc : (s.discovery.receivers n).pc = .handling message)
    (haddress : ClientConnection.announcedAddress digits message = some (ip, port))
    (hne : s.handling n ≠ .replacing) (hs : s.step cfg digits charset (.handle n) = some u)
    (hu : u.isHandling n = true) :
    (u.handling n ≠ .replacing →
        (Keeps n s (.handle n) u ↔ Repeats n ip port s (.handle n) u)) ∧
      (u.handling n = .replacing → ¬Repeats n ip port s (.handle n) u) := by
  obtain ⟨hip, hport⟩ := announcedAddress_eq_some.mp haddress
  cases steps_of_step hs with
  | unaddressed | unparsed | returns => simp [isHandling_handled] at hu
  | starts => simp [isHandling_startConnection] at hu
  | addresses hat hpc' hip' =>
      obtain rfl := message_eq hpc hpc'
      obtain rfl := Option.some.inj (hip.symm.trans hip')
      have hsame : some ip = s.mServerIp ↔ s.mServerIp = some ip := eq_comm
      simp [Keeps, Repeats, hat, hsame, setHandling]
  | parses hat hpc' hport' =>
      obtain rfl := message_eq hpc hpc'
      obtain rfl := Option.some.inj (hport.symm.trans hport')
      have hsame : port = s.mServerPort ↔ s.mServerPort = port := eq_comm
      simp [Keeps, Repeats, hat, hsame, setHandling]
  | tests hat | registers hat => simp [Keeps, Repeats, hat, setHandling]
  | testsAgain hat =>
      cases hconnected : s.client.current.isConnected with
      | true => simp [Keeps, Repeats, hat, hconnected, setHandling]
      | false => simp [Repeats, hat, hconnected, setHandling]
  | replaces hat => exact absurd hat hne

/-- The same for the last statement. -/
theorem keeps_iff_repeats_last {ip : JString} {port : Int32}
    (hpc : (s.discovery.receivers n).pc = .handling message)
    (haddress : ClientConnection.announcedAddress digits message = some (ip, port))
    (hs : s.step cfg digits charset (.handle n) = some t) (ht : t.isHandling n = false) :
    s.handling n ≠ .replacing ∧
      (Keeps n s (.handle n) t ∧ (t.discovery.receivers n).pc = .testing ↔
        Repeats n ip port s (.handle n) t) := by
  obtain ⟨hip, hport⟩ := announcedAddress_eq_some.mp haddress
  cases steps_of_step hs with
  | addresses | parses | tests | testsAgain | replaces | registers =>
      simp [isHandling, setHandling, hpc] at ht
  | unaddressed _ hpc' hip' =>
      obtain rfl := message_eq hpc hpc'
      simp [hip] at hip'
  | unparsed _ hpc' hport' =>
      obtain rfl := message_eq hpc hpc'
      simp [hport] at hport'
  | returns hat => simp [Keeps, Repeats, hat, handled, Discovery.handled]
  | starts hat =>
      refine ⟨by simp [hat], ?_⟩
      unfold startConnection
      simp only
      split
      · rename_i hcreated
        simp [Keeps, Repeats, hat, hcreated, handled, Discovery.handled, Client.setThread]
      · rename_i hcreated
        simp [Repeats, hat, hcreated, handled, Discovery.handled]

/-- A new thread gets a number that no thread had. -/
theorem not_keeps_of_replacing (hnum : s.Numbered)
    (hpc : (s.discovery.receivers n).pc = .handling message) (hat : s.handling n = .replacing)
    (hs : s.step cfg digits charset (.handle n) = some u) : ¬Keeps n s (.handle n) u := by
  intro hkeeps
  rw [step_handle hpc] at hs
  obtain rfl := Option.some.inj hs
  have hlt := hnum.current (.inl (Nat.zero_lt_of_lt (hnum.lt_created hpc)))
  have hfield := (hkeeps rfl).2.2
  simp only [onNewDataReceived, hat] at hfield
  exact Nat.ne_of_gt hlt hfield

/-- A receiver that replaces the current thread does not keep it, and any other keeps what it
finds if and only if that is what its datagram says. -/
theorem keeps_iff {ip : JString} {port : Int32} {ls : List Label} (hnum : s.Numbered)
    (hpc : (s.discovery.receivers n).pc = .handling message)
    (haddress : ClientConnection.announcedAddress digits message = some (ip, port))
    (h : Handles cfg digits charset n s ls t) :
    (s.handling n = .replacing → ¬Along (step cfg digits charset) (Keeps n) s ls) ∧
      (s.handling n ≠ .replacing →
        (Along (step cfg digits charset) (Keeps n) s ls ∧
            (t.discovery.receivers n).pc = .testing ↔
          Along (step cfg digits charset) (Repeats n ip port) s ls)) := by
  refine Handles.rule (G := fun s ls =>
    (s.handling n = .replacing → ¬Along (step cfg digits charset) (Keeps n) s ls) ∧
      (s.handling n ≠ .replacing →
        (Along (step cfg digits charset) (Keeps n) s ls ∧
            (t.discovery.receivers n).pc = .testing ↔
          Along (step cfg digits charset) (Repeats n ip port) s ls))) ?_ ?_ ?_ hnum hpc h
  · intro s l u ls hs hl hhandling _ ih
    have hkeeps : Keeps n s l u := fun heq => absurd heq hl
    have hrepeats : Repeats n ip port s l u := fun heq => absurd heq hl
    rwa [along_cons_of_step hs, along_cons_of_step hs, and_iff_right hkeeps,
      and_iff_right hrepeats, ← hhandling]
  · intro s u ls hnum hpc hs hu ih
    rw [along_cons_of_step hs, along_cons_of_step hs, and_assoc]
    refine ⟨fun hat h => not_keeps_of_replacing hnum hpc hat hs h.1, fun hne => ?_⟩
    obtain ⟨hkeeps, hreplacing⟩ := keeps_iff_repeats hpc haddress hne hs hu
    by_cases hat : u.handling n = .replacing
    · exact iff_of_false (fun h => ih.1 hat h.2.1) fun h => hreplacing hat h.1
    · exact and_congr (hkeeps hat) (ih.2 hat)
  · intro s hpc hs ht
    rw [along_cons_of_step hs, along_cons_of_step hs, and_iff_left (along_nil t),
      and_iff_left (along_nil t)]
    obtain ⟨hne, hiff⟩ := keeps_iff_repeats_last hpc haddress hs ht
    exact ⟨fun hat => absurd hat hne, fun _ => hiff⟩

theorem entered_of_receive {bytes : List UInt8}
    (hs : s.step cfg digits charset (.receive n bytes) = some t) :
    (t.discovery.receivers n).pc = .handling (messageOf charset bytes) ∧
      t.handling n = .addressing := by
  cases steps_of_step hs with
  | receive hstep =>
      simp only [Discovery.step, Option.ite_none_left_eq_some] at hstep
      obtain ⟨x, hx, rfl⟩ := Option.map_eq_some_iff.mp hstep.2
      cases BroadcastReceiveThread.steps_of_step hx with
      | receive => exact ⟨by simp, by simp [setHandling]⟩

/-- A datagram is handled as it should be if and only if it is of the form that servers announce,
its first `MAXREV` bytes can be read as an address, and nothing comes in between; or it is of
another form, and says what is so already. -/
theorem handlesPayload_iff (cfg : ClientConfig) (digits : DigitTable) (charset : Charset)
    (free : Int32 → Bool) (past ls : List Label) (s u t : ReceivingClient) (n : ℕ)
    (bytes : List UInt8) (hpast : exec (step cfg digits charset) (new cfg free) past = some s)
    (hreceive : s.step cfg digits charset (.receive n bytes) = some u)
    (hhandles : Handles cfg digits charset n u ls t) :
    HandlesPayload cfg digits charset n (charset.newString bytes) u ls t ↔
      (∃ ip port, WellFormed (charset.newString bytes) ip port ∧
        (ClientConnection.announcedAddress digits (messageOf charset bytes)).isSome = true ∧
          Along (step cfg digits charset) (Undisturbed n ip port) u ls) ∨
      ((¬∃ ip port, WellFormed (charset.newString bytes) ip port) ∧
        ∃ ip port, ClientConnection.announcedAddress digits (messageOf charset bytes) =
            some (ip, port) ∧ Along (step cfg digits charset) (Repeats n ip port) u ls) := by
  have hnum : u.Numbered :=
    numbered_step (invariant (fun _ _ _ h hs => numbered_step h hs) (numbered_new cfg free) hpast)
      hreceive
  obtain ⟨hpc, hat⟩ := entered_of_receive hreceive
  by_cases hform : ∃ ip port, WellFormed (charset.newString bytes) ip port
  · simp only [hform, not_true, false_and, or_false]
    constructor
    · intro h
      obtain ⟨ip, port, hform⟩ := hform
      have hattempt := h.wellFormed ip port hform
      have haddress : (ClientConnection.announcedAddress digits
          (messageOf charset bytes)).isSome = true := by
        by_contra hnone
        have hends := ends_of_unannounced hnum hpc hat (by simpa using hnone) hhandles
        simp [hends.1] at hattempt
      exact ⟨ip, port, hform, haddress, (attempts_iff hnum hpc haddress hhandles).mp hattempt⟩
    · rintro ⟨ip, port, hip, haddress, halong⟩
      refine ⟨fun ip' port' hip' => ?_, fun hnone => absurd hform hnone⟩
      obtain ⟨rfl, rfl⟩ := hip.unique hip'
      exact (attempts_iff hnum hpc haddress hhandles).mpr halong
  · have hne : u.handling n ≠ .replacing := by simp [hat]
    simp only [hform, not_false_iff, true_and]
    constructor
    · intro h
      obtain ⟨hkeeps, htesting⟩ := h.other hform
      right
      cases haddress : ClientConnection.announcedAddress digits (messageOf charset bytes) with
      | none =>
          have hends := ends_of_unannounced hnum hpc hat haddress hhandles
          simp [hends.2] at htesting
      | some address =>
          obtain ⟨ip, port⟩ := address
          exact ⟨ip, port, rfl, ((keeps_iff hnum hpc haddress hhandles).2 hne).mp
            ⟨hkeeps, htesting⟩⟩
    · rintro (⟨ip, port, hip, -⟩ | ⟨ip, port, haddress, halong⟩)
      · exact absurd ⟨ip, port, hip⟩ hform
      · exact ⟨fun ip port hip => absurd ⟨ip, port, hip⟩ hform,
          fun _ => ((keeps_iff hnum hpc haddress hhandles).2 hne).mpr halong⟩

/-- The datagram of a server, in ASCII. -/
def announced : List UInt8 := Charset.ascii.getBytes (lit "10.0.0.1:10083")

/-- The sample client, started and listening. -/
def listeningClient : ReceivingClient :=
  (exec (step sampleClient .ascii .ascii) (new sampleClient fun _ => true) listening).get
    (by decide)

/-- The same client with that datagram in hand. -/
def announcedClient : ReceivingClient :=
  (listeningClient.step sampleClient .ascii .ascii (.receive 0 announced)).get (by decide)

/-- The same client after it was handled without a pause. -/
def startedClient : ReceivingClient :=
  (exec (step sampleClient .ascii .ascii) announcedClient (List.replicate 7 (.handle 0))).get
    (by decide)

theorem handlesPayload_iff_announcement :
    startedClient.attempts 0 = [(some (lit "10.0.0.1"), 10083)] ∧
      (HandlesPayload sampleClient .ascii .ascii 0 (Charset.ascii.newString announced)
          announcedClient (List.replicate 7 (.handle 0)) startedClient ↔
        (∃ ip port, WellFormed (Charset.ascii.newString announced) ip port ∧
          (ClientConnection.announcedAddress .ascii (messageOf .ascii announced)).isSome = true ∧
            Along (step sampleClient .ascii .ascii) (Undisturbed 0 ip port) announcedClient
              (List.replicate 7 (.handle 0))) ∨
        ((¬∃ ip port, WellFormed (Charset.ascii.newString announced) ip port) ∧
          ∃ ip port, ClientConnection.announcedAddress .ascii (messageOf .ascii announced) =
              some (ip, port) ∧
            Along (step sampleClient .ascii .ascii) (Repeats 0 ip port) announcedClient
              (List.replicate 7 (.handle 0)))) :=
  ⟨by decide, handlesPayload_iff sampleClient .ascii .ascii (fun _ => true) listening
    (List.replicate 7 (.handle 0)) listeningClient announcedClient startedClient 0 announced
    (Option.some_get _).symm (Option.some_get _).symm
    ⟨(Option.some_get _).symm, by decide, by decide⟩⟩

/-- A datagram without a colon ends the receiver. -/
theorem colonless_datagram_not_ignored :
    ¬ ∀ past ls s u t n bytes,
      exec (step sampleClient .ascii .ascii) (new sampleClient fun _ => true) past = some s →
        s.client.current.isConnected = false →
          s.step sampleClient .ascii .ascii (.receive n bytes) = some u →
            Handles sampleClient .ascii .ascii n u ls t →
              HandlesPayload sampleClient .ascii .ascii n (Charset.ascii.newString bytes)
                u ls t := by
  intro h
  have hhandles := h listening [.handle 0] listeningClient _ _ 0
    (Charset.ascii.getBytes (lit "hello")) (Option.some_get _).symm (by decide)
    (Option.some_get (by decide)).symm ⟨(Option.some_get (by decide)).symm, by decide, by decide⟩
  have htesting := (hhandles.other ?_).2
  · exact absurd htesting (by decide)
  · rintro ⟨ip, port, hform⟩
    exact absurd hform.colon_mem (by decide)

end ReceivingClient

end Collaboration
