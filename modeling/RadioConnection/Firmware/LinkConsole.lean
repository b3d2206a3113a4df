import RadioConnection.Firmware.LinkNode
import RadioConnection.Link.CallEvents
import RadioConnection.Link.Exchanges

/-!
# The console of a link node

What a node writes to its UART is the story of its link service: what the service logs,
and what the application shows of its events and of the requests that it starts.

* `happenings` and `reports`: what happens in a session, and what the application shows
  of it; `entryText`: what each entry of a session puts on the console.
* `Does`: what a trace of the firmware writes, calls and marks.
* `Followed`: what holds after each turn of the main loop.
* `console_faithful`: **the console is the text of a session of the service on this HAL,
  entry by entry, and the application shows every event exactly once.**
* `exchanges_paced`: **the exchanges of an initiator take turns, at least a second
  apart.**
-/

namespace RadioConnection

open Interaction Prog
open DuplexLinkService (Session Steps Composed LogEntry AdapterWorld adapterEnv atPublished atNow)

/-! ## The story -/

def startedLine : List UInt8 := ascii "[TX] DATA started payload=NODE-A-DATA-0001\r\n"

inductive Happening
  | event (event : DuplexLinkEvent)
  | began (request : LinkPacket)

/-- What happens in a session: events are published, and requests begin. -/
def happenings (log : List LogEntry) : List Happening :=
  log.filterMap fun
    | .action ⟨.published event _, _⟩ => some (.event event)
    | .began request => some (.began request)
    | _ => none

/-- What the application shows of it: the events that it takes, and the requests that it starts. -/
def reports (log : List LogEntry) : List Happening :=
  log.filterMap fun
    | .taken event => some (.event event)
    | .began request => some (.began request)
    | _ => none

/-- What an entry of a session puts on the console.  The service logs some of its calls. -/
def entryText : LogEntry → List UInt8
  | .action a => a.1.logLines.flatMap lineText
  | .taken event => event.line
  | .began _ => startedLine
  | .configured _ => []

def linkCalls (log : List LogEntry) : List LinkAction :=
  log.filterMap fun
    | .action a => some a
    | _ => none

def bootLines (config : DuplexLinkConfig) (status : UInt8) : List UInt8 :=
  ascii "\r\n[BOOT] STM32F401 SX128x link\r\n" ++
  ascii ("[BOOT] role=" ++ nodeConfigName config.role ++ "\r\n") ++
  ascii "[BOARD] validation OK\r\n" ++ ascii "[SX128X] initialization started\r\n" ++
  lineText (initializedLine config) ++ radioStatusLine status ++
  ascii "[SX128X] init OK freq=2445000000 sf=6 bw=812500\r\n" ++
  ascii "[LINK] service ready\r\n"

/-- `true` when an exchange begins, `false` when its end is reported. -/
def Happening.turn : Happening → Option Bool
  | began _ => some true
  | event e => if DuplexLinkService.IsEnd e then some false else none

/-- Beginnings and ends take turns, from `active` on to `active'`. -/
def TakeTurns : Bool → List Bool → Bool → Prop
  | active, [], active' => active' = active
  | active, t :: ts, active' => t = !active ∧ TakeTurns t ts active'

/-! ## What a program does -/

/-- The bytes that are handed to a UART. -/
def console (uart : ℕ) (tr : List NodeAction) : List UInt8 :=
  tr.flatMap fun
    | ⟨.uartTransmit uart' data _, _⟩ => if uart' = uart then data else []
    | _ => []

def halCalls (tr : List NodeAction) : List HalAction :=
  tr.filterMap fun
    | ⟨.hal o, x⟩ => some ⟨o, x⟩
    | _ => none

inductive Mark
  | tick (nowMs : UInt32)
  | started
  deriving DecidableEq, Repr

/-- The ticks that the application reads, and the starts that it shows. -/
def marks (tr : List NodeAction) : List Mark :=
  tr.filterMap fun
    | ⟨.getTick, nowMs⟩ => some (.tick nowMs)
    | ⟨.uartTransmit _ data _, _⟩ => if data = startedLine then some .started else none
    | _ => none

/-- Every start is at least as late after the one before as the firmware says; `start` is the tick
of the last start and `nowMs` the last tick, and `start'` and `nowMs'` are those at the end. -/
def Paced : UInt32 → UInt32 → List Mark → UInt32 → UInt32 → Prop
  | start, nowMs, [], start', nowMs' => start' = start ∧ nowMs' = nowMs
  | start, _, .tick nowMs :: ms, start', nowMs' => Paced start nowMs ms start' nowMs'
  | start, nowMs, .started :: ms, start', nowMs' =>
    appTxIntervalMs ≤ nowMs - start ∧ Paced nowMs nowMs ms start' nowMs'

/-- What a trace writes to a UART, what its composition calls, and its marks. -/
structure Does (uart : ℕ) (tr : List NodeAction) (text : List UInt8) (calls : List HalAction)
    (ms : List Mark) : Prop where
  console_eq : console uart tr = text
  halCalls_eq : halCalls tr = calls
  marks_eq : marks tr = ms

section

variable {tr tr' : List NodeAction} {text text' : List UInt8} {calls calls' : List HalAction}
  {ms ms' : List Mark} {uart : ℕ}

theorem does_nil : Does uart [] [] [] [] := ⟨rfl, rfl, rfl⟩

theorem Does.append (h : Does uart tr text calls ms) (h' : Does uart tr' text' calls' ms') :
    Does uart (tr ++ tr') (text ++ text') (calls ++ calls') (ms ++ ms') where
  console_eq := by
    rw [console, List.flatMap_append, ← h.console_eq, ← h'.console_eq]
    rfl
  halCalls_eq := by
    rw [halCalls, List.filterMap_append, ← h.halCalls_eq, ← h'.halCalls_eq]
    rfl
  marks_eq := by
    rw [marks, List.filterMap_append, ← h.marks_eq, ← h'.marks_eq]
    rfl

theorem Paced.append {start start₁ start₂ nowMs nowMs₁ nowMs₂ : UInt32}
    (h : Paced start nowMs ms start₁ nowMs₁) (h' : Paced start₁ nowMs₁ ms' start₂ nowMs₂) :
    Paced start nowMs (ms ++ ms') start₂ nowMs₂ := by
  induction ms generalizing start nowMs with
  | nil =>
    obtain ⟨rfl, rfl⟩ := h
    exact h'
  | cons m ms ih =>
    cases m with
    | tick t => exact ih h
    | started => exact ⟨h.1, ih h.2⟩

theorem TakeTurns.append {active active₁ active₂ : Bool} {ts ts' : List Bool}
    (h : TakeTurns active ts active₁) (h' : TakeTurns active₁ ts' active₂) :
    TakeTurns active (ts ++ ts') active₂ := by
  induction ts generalizing active with
  | nil =>
    obtain rfl := h
    exact h'
  | cons t ts ih => exact ⟨h.1, ih h.2⟩

theorem does_onHal (uart : ℕ) {α : Type} {p : HalProg α} {a : α} (h : Trace (onHal p) tr a) :
    ∃ calls, Trace p calls a ∧ Does uart tr [] calls [] := by
  obtain ⟨calls, ht, hcalls⟩ := trace_embed_iff.mp h
  refine ⟨calls, ht, ?_⟩
  clear ht h
  induction hcalls with
  | nil => exact does_nil
  | cons hc _ ih =>
    obtain ⟨x, rfl, hx⟩ := hc
    obtain ⟨h₁, h₂, h₃⟩ := ih
    refine ⟨h₁, ?_, h₃⟩
    rw [← h₂]
    exact congrArg (· :: _) (Sigma.ext rfl (heq_of_eq hx.symm))

theorem does_getTick (uart : ℕ) {nowMs : UInt32} (h : Trace (node .getTick) tr nowMs) :
    Does uart tr [] [] [.tick nowMs] := by
  obtain rfl := trace_ask_iff.mp h
  exact ⟨rfl, rfl, rfl⟩

end

namespace LinkNode

variable {board : LinkNodeBoard} {bound : ℕ} {tr : List NodeAction}

/-- A text that fits the HAL and does not say that a request was started. -/
def Plain (data : List UInt8) : Prop := data.length ≤ 65535 ∧ data ≠ startedLine

instance (data : List UInt8) : Decidable (Plain data) := inferInstanceAs (Decidable (_ ∧ _))

theorem plain_of_length {data : List UInt8} (h : data.length ≤ 30) : Plain data := by
  refine ⟨h.trans (by decide), ?_⟩
  rintro rfl
  exact absurd h (by decide)

theorem does_transmit {uart : ℕ} {data : List UInt8} (hdata : Plain data) (timeoutMs : UInt32)
    (status : HalStatus) :
    Does uart [⟨.uartTransmit uart data timeoutMs, status⟩] data [] [] := by
  refine ⟨?_, rfl, ?_⟩
  · simp [console]
  · simp [marks, hdata.2]

theorem does_appUartWriteBytes {data : List UInt8} (hdata : Plain data)
    (h : Trace (appUartWriteBytes board data) tr ()) :
    Does board.huart2.address tr data [] [] := by
  rw [appUartWriteBytes] at h
  split at h
  · rename_i hempty
    obtain ⟨rfl, -⟩ := trace_pure_iff.mp h
    obtain rfl := List.eq_nil_of_length_eq_zero (hempty.resolve_right (not_lt.mpr hdata.1))
    exact does_nil
  · obtain ⟨status, t₁, t₂, h₁, h₂, rfl⟩ := trace_bind_iff.mp h
    obtain rfl := trace_ask_iff.mp h₁
    obtain ⟨rfl, -⟩ := trace_pure_iff.mp h₂
    exact does_transmit hdata _ status

theorem does_started (h : Trace (appUartWriteBytes board startedLine) tr ()) :
    Does board.huart2.address tr startedLine [] [.started] := by
  rw [appUartWriteBytes, if_neg (by decide)] at h
  obtain ⟨status, t₁, t₂, h₁, h₂, rfl⟩ := trace_bind_iff.mp h
  obtain rfl := trace_ask_iff.mp h₁
  obtain ⟨rfl, -⟩ := trace_pure_iff.mp h₂
  refine ⟨?_, rfl, rfl⟩
  simp [console]

/-! ## The log of the service -/

theorem plain_lineText {line : RadioLogLevel × String} (hline : IsShort line) :
    Plain (lineText line) := by
  have hbound := Stm32Logger.length_vlogBytes line.1 duplexLinkTag line.2
  rw [vlogBytes_eq hline] at hbound
  refine ⟨hbound.2.le.trans (by decide), fun he => ?_⟩
  -- the second byte of a line tells its level
  have hsecond := congrArg (fun text => text[1]?) he
  rw [lineText, ascii_append, ascii_append, ascii_append, ascii_append, ascii_append] at hsecond
  obtain hlevel | hlevel := hline.1
  · rw [hlevel] at hsecond
    exact absurd (Option.some.inj hsecond) (by decide)
  · rw [hlevel] at hsecond
    exact absurd (Option.some.inj hsecond) (by decide)

theorem trace_writeLoop_nil {logger : Stm32Logger} {rounds : ℕ}
    (h : Trace (logger.writeLoop rounds []) tr ()) : tr = [] := by
  cases rounds with
  | zero => exact (trace_pure_iff.mp h).1
  | succ rounds =>
    rw [Stm32Logger.writeLoop, if_pos List.length_nil] at h
    exact (trace_pure_iff.mp h).1

theorem does_vlog {logger : Stm32Logger} {line : RadioLogLevel × String}
    (hlevel : logger.minLevel = .info) (hline : IsShort line)
    (h : Trace (logger.vlog line.1 duplexLinkTag line.2) tr ()) :
    Does logger.uart tr (lineText line) [] [] := by
  have henabled : logger.isEnabled line.1 = true := by
    rw [Stm32Logger.isEnabled, hlevel]
    obtain hl | hl := hline.1 <;> rw [hl] <;> rfl
  have hplain := plain_lineText hline
  have hlength := (Stm32Logger.length_vlogBytes line.1 duplexLinkTag line.2).1
  rw [vlogBytes_eq hline] at hlength
  rw [Stm32Logger.vlog, if_neg (not_not.mpr henabled), vlogBytes_eq hline] at h
  obtain ⟨rounds, hrounds⟩ := Nat.exists_eq_succ_of_ne_zero hlength.ne'
  dsimp only at h
  rw [hrounds, Stm32Logger.writeLoop, if_neg hlength.ne', List.take_of_length_le hplain.1,
    List.drop_of_length_le hplain.1] at h
  obtain ⟨status, t₁, t₂, h₁, h₂, rfl⟩ := trace_bind_iff.mp h
  obtain rfl := trace_ask_iff.mp h₁
  have hrest : t₂ = [] := by
    split at h₂
    · exact (trace_pure_iff.mp h₂).1
    · exact trace_writeLoop_nil h₂
  obtain rfl := hrest
  exact does_transmit hplain _ status

theorem does_vlogAll {logger : Stm32Logger} {lines : List (RadioLogLevel × String)}
    (hlevel : logger.minLevel = .info) (hlines : ∀ line ∈ lines, IsShort line)
    (h : Trace (logger.vlogAll duplexLinkTag lines) tr ()) :
    Does logger.uart tr (lines.flatMap lineText) [] [] := by
  induction lines generalizing tr with
  | nil =>
    obtain ⟨rfl, -⟩ := trace_pure_iff.mp h
    exact does_nil
  | cons line lines ih =>
    obtain ⟨_, t₁, t₂, h₁, h₂, rfl⟩ := trace_bind_iff.mp h
    obtain ⟨hline, hlines⟩ := List.forall_mem_cons.mp hlines
    exact (does_vlog hlevel hline h₁).append (ih hlines h₂)

/-- **The calls of the service write what it logs**, and call the HAL as without a log. -/
theorem does_expands {logger : Stm32Logger} {device : Sx128x}
    {q q' : Sx128xPacketRadio × Stm32f4Sx128xPort} {linkTr : List LinkAction}
    (hlevel : logger.minLevel = .info)
    (h : Expands (Stm32f401LinkComposition.loggedHandler logger device bound) q linkTr tr q') :
    ∃ calls, Expands (Stm32f401LinkComposition.linkHandler device bound) q linkTr calls q' ∧
      Does logger.uart tr (linkTr.flatMap fun a => a.1.logLines.flatMap lineText) calls [] := by
  induction linkTr generalizing q tr with
  | nil =>
    obtain ⟨rfl, rfl⟩ := h
    exact ⟨[], ⟨rfl, rfl⟩, does_nil⟩
  | cons a linkTr ih =>
    obtain ⟨m, t₁, t₂, hcall, hrest, rfl⟩ := h
    obtain ⟨_, t₃, t₄, hlog, hhal, rfl⟩ := trace_bind_iff.mp hcall
    obtain ⟨calls₁, hcalls, hdoes₁⟩ := does_onHal logger.uart hhal
    obtain ⟨calls₂, hx, hdoes₂⟩ := ih hrest
    refine ⟨calls₁ ++ calls₂, ⟨m, calls₁, calls₂, hcalls, hx, rfl⟩, ?_⟩
    have hall := ((does_vlogAll hlevel isShort_logLines hlog).append hdoes₁).append hdoes₂
    rw [List.append_nil] at hall
    exact hall

/-! ## The application -/

theorem does_writeAll {pieces : List (List UInt8)} (hpieces : ∀ piece ∈ pieces, Plain piece)
    (h : Trace (writeAll board pieces) tr ()) : Does board.huart2.address tr pieces.flatten [] [] := by
  induction pieces generalizing tr with
  | nil =>
    obtain ⟨rfl, -⟩ := trace_pure_iff.mp h
    exact does_nil
  | cons piece pieces ih =>
    obtain ⟨_, t₁, t₂, h₁, h₂, rfl⟩ := trace_bind_iff.mp h
    obtain ⟨hpiece, hpieces⟩ := List.forall_mem_cons.mp hpieces
    exact (does_appUartWriteBytes hpiece h₁).append (ih hpieces h₂)

/-- The application takes these events, one after another. -/
inductive Drains : DuplexLinkService → List DuplexLinkEvent → DuplexLinkService → Prop
  | refl (s : DuplexLinkService) : Drains s [] s
  | take {s s₁ s' : DuplexLinkService} {event : DuplexLinkEvent} {events : List DuplexLinkEvent} :
      s.takeEvent = some (event, s₁) → Drains s₁ events s' → Drains s (event :: events) s'

theorem does_appProcessLinkEvents {rounds : ℕ} {c c' : Stm32f401LinkComposition}
    (hc : c.initialized = true)
    (h : Trace (appProcessLinkEvents board rounds c) tr (some c')) :
    Does board.huart2.address tr (c.linkService.events.toList.flatMap (·.line)) [] [] ∧
      ∃ service, c' = { c with linkService := service } ∧ service.events.toList = [] ∧
        Drains c.linkService c.linkService.events.toList service := by
  induction rounds generalizing c tr with
  | zero => exact absurd (trace_pure_iff.mp h).2 (by simp)
  | succ rounds ih =>
    rw [appProcessLinkEvents] at h
    cases htake : c.linkService.takeEvent with
    | none =>
      have hnone : c.takeEvent = none := by
        rw [Stm32f401LinkComposition.takeEvent, if_neg (not_not.mpr hc), htake]
        rfl
      have hnil := RingBuffer.pop_eq_none_iff.mp (Option.map_eq_none_iff.mp htake)
      rw [hnone] at h
      obtain ⟨rfl, he⟩ := trace_pure_iff.mp h
      obtain rfl := Option.some.inj he
      rw [hnil]
      exact ⟨does_nil, _, rfl, hnil, .refl _⟩
    | some r =>
      obtain ⟨event, service⟩ := r
      have hsome : c.takeEvent = some (event, { c with linkService := service }) := by
        rw [Stm32f401LinkComposition.takeEvent, if_neg (not_not.mpr hc), htake]
        rfl
      obtain ⟨events, hpop, rfl⟩ := DuplexLinkService.takeEvent_eq_some htake
      rw [hsome] at h
      obtain ⟨_, t₁, t₂, h₁, h₂, rfl⟩ := trace_bind_iff.mp h
      obtain ⟨hdoes, service', rfl, hnil, hdrains⟩ := ih (by exact hc) h₂
      have hplain := fun piece hp => plain_of_length (length_eventPieces event piece hp)
      have hwrite := does_writeAll hplain h₁
      rw [flatten_eventPieces] at hwrite
      rw [RingBuffer.toList_pop hpop]
      exact ⟨hwrite.append hdoes, service', rfl, hnil, .take htake hdrains⟩

/-! ## The start -/

theorem does_appMainReady {c : Stm32f401LinkComposition} {n : LinkNode}
    (h : Trace (appMainReady board c) tr (some (some n))) :
    n.linkComposition = c ∧ Does board.huart2.address tr
      (ascii "[SX128X] init OK freq=2445000000 sf=6 bw=812500\r\n" ++
        ascii "[LINK] service ready\r\n") [] [.tick n.lastTxMs] := by
  obtain ⟨lastTxMs, t₁, t₂, h₁, h₂, rfl⟩ := trace_bind_iff.mp h
  obtain ⟨_, t₃, t₄, h₃, h₄, rfl⟩ := trace_bind_iff.mp h₂
  obtain ⟨_, t₅, t₆, h₅, h₆, rfl⟩ := trace_bind_iff.mp h₄
  obtain ⟨rfl, he⟩ := trace_pure_iff.mp h₆
  obtain rfl := Option.some.inj (Option.some.inj he)
  rw [List.append_nil]
  have hinit := does_appUartWriteBytes (by decide) h₃
  have hready := does_appUartWriteBytes (by decide) h₅
  exact ⟨rfl, (does_getTick board.huart2.address h₁).append (hinit.append hready)⟩

theorem does_appMainStarted {c : Stm32f401LinkComposition} {n : LinkNode}
    (hc : c.initialized = true) (h : Trace (appMainStarted board bound c) tr (some (some n))) :
    ∃ status calls backend service, n.linkComposition =
        { c with radioPortBackend := backend, linkService := service } ∧
      (service = c.linkService ∨
        service = (c.linkService.setResponsePayload responderPayload).2) ∧
      Does board.huart2.address tr (radioStatusLine status ++
        (ascii "[SX128X] init OK freq=2445000000 sf=6 bw=812500\r\n" ++
          ascii "[LINK] service ready\r\n")) calls [.tick n.lastTxMs] := by
  obtain ⟨r, t₁, t₂, h₁, h₂, rfl⟩ := trace_bind_iff.mp h
  obtain ⟨calls, -, hcalls⟩ := does_onHal board.huart2.address h₁
  obtain _ | ⟨_ | ⟨result, status⟩, backend⟩ := r
  · exact absurd (trace_pure_iff.mp h₂).2 (by simp)
  · exact absurd (trace_pure_iff.mp h₂).2 (by simp)
  dsimp only at h₂
  split at h₂
  · obtain ⟨_, t₃, t₄, -, h₄, rfl⟩ := trace_bind_iff.mp h₂
    exact absurd (trace_pure_iff.mp h₄).2 (by simp)
  obtain ⟨_, t₃, t₄, h₃, h₄, rfl⟩ := trace_bind_iff.mp h₂
  have hstatus := does_appUartWriteBytes (plain_of_length (by simp [radioStatusLine]; decide)) h₃
  have hready {c' : Stm32f401LinkComposition} (h' : Trace (appMainReady board c') t₄
      (some (some n))) : n.linkComposition = c' ∧ Does board.huart2.address (t₁ ++ (t₃ ++ t₄))
        (radioStatusLine (status.getD 0) ++
          (ascii "[SX128X] init OK freq=2445000000 sf=6 bw=812500\r\n" ++
            ascii "[LINK] service ready\r\n")) calls [.tick n.lastTxMs] := by
    obtain ⟨he, hdoes⟩ := does_appMainReady h'
    refine ⟨he, ?_⟩
    simpa only [List.append_nil, List.nil_append] using hcalls.append (hstatus.append hdoes)
  split at h₄
  · split at h₄
    · obtain ⟨_, t₅, t₆, -, h₆, rfl⟩ := trace_bind_iff.mp h₄
      exact absurd (trace_pure_iff.mp h₆).2 (by simp)
    · obtain ⟨he, hdoes⟩ := hready h₄
      rw [Stm32f401LinkComposition.setResponsePayload, if_neg (by simp [hc])] at he
      exact ⟨_, calls, backend, _, he, .inr rfl, hdoes⟩
  · obtain ⟨he, hdoes⟩ := hready h₄
    exact ⟨_, calls, backend, _, he, .inl rfl, hdoes⟩

/-- The logger of a composition writes to this UART, and writes what the service logs. -/
structure Logs (uart : ℕ) (c : Stm32f401LinkComposition) : Prop where
  uart_eq : c.logger.uart = uart
  minLevel_eq : c.logger.minLevel = .info

theorem of_configInitDefaults {spi : Option SpiHandle} {uart : UartHandle} {role : DuplexLinkRole}
    {config : Stm32f401LinkCompositionConfig}
    (h : Stm32f401LinkComposition.configInitDefaults spi uart role = some config) :
    config.link.role = role ∧ ∀ logger, Stm32Logger.init (config.loggerUart.map (·.address))
      config.loggerTimeoutMs config.logLevel = some logger →
      logger.uart = uart.address ∧ logger.minLevel = .info := by
  rw [Stm32f401LinkComposition.configInitDefaults] at h
  split at h
  · cases h
  obtain rfl := Option.some.inj h
  refine ⟨rfl, fun logger hlogger => ?_⟩
  obtain rfl := Option.some.inj hlogger
  exact ⟨rfl, rfl⟩

theorem logs_of_init {config : Stm32f401LinkCompositionConfig} {c : Stm32f401LinkComposition}
    {calls : List HalAction}
    (hconfig : Stm32f401LinkComposition.configInitDefaults board.hspi1 board.huart2
      board.duplexRole = some config)
    (h : Trace (Stm32f401LinkComposition.init bound config) calls (some (some c))) :
    Logs board.huart2.address c := by
  obtain ⟨huart, hlevel⟩ := (of_configInitDefaults hconfig).2 _
    (Stm32f401LinkComposition.trace_init h).2.1
  exact ⟨huart, hlevel⟩

theorem does_initLogged {config : Stm32f401LinkCompositionConfig} {c : Stm32f401LinkComposition}
    (hconfig : Stm32f401LinkComposition.configInitDefaults board.hspi1 board.huart2
      board.duplexRole = some config)
    (h : Trace (Stm32f401LinkComposition.initLogged bound config) tr (some (some c))) :
    ∃ calls, Trace (Stm32f401LinkComposition.init bound config) calls (some (some c)) ∧
      Does board.huart2.address tr (lineText (initializedLine config.link)) calls [] := by
  obtain ⟨started, t₁, t₂, h₁, h₂, rfl⟩ := trace_bind_iff.mp h
  obtain ⟨calls, hinit, hcalls⟩ := does_onHal board.huart2.address h₁
  obtain _ | _ | composition := started
  · exact absurd (trace_pure_iff.mp h₂).2 (by simp)
  · exact absurd (trace_pure_iff.mp h₂).2 (by simp)
  obtain ⟨_, t₃, t₄, h₃, h₄, rfl⟩ := trace_bind_iff.mp h₂
  obtain ⟨rfl, he⟩ := trace_pure_iff.mp h₄
  obtain rfl : c = composition := Option.some.inj (Option.some.inj he)
  have hlogs := logs_of_init hconfig hinit
  have hline := does_vlogAll hlogs.minLevel_eq
    (List.forall_mem_singleton.mpr (isShort_initializedLine config.link)) h₃
  rw [hlogs.uart_eq] at hline
  have hall := hcalls.append hline
  simp only [List.append_nil, List.nil_append, List.flatMap_cons, List.flatMap_nil] at hall ⊢
  exact ⟨calls, hinit, hall⟩

theorem does_appMainInit {n : LinkNode}
    (h : Trace (appMainInit board bound) tr (some (some n))) :
    ∃ config composition startCalls status calls backend service,
      Stm32f401LinkComposition.configInitDefaults board.hspi1 board.huart2 board.duplexRole =
        some config ∧
      Trace (Stm32f401LinkComposition.init bound config) startCalls (some (some composition)) ∧
      n.linkComposition =
        { composition with radioPortBackend := backend, linkService := service } ∧
      (service = composition.linkService ∨
        service = (composition.linkService.setResponsePayload responderPayload).2) ∧
      Does board.huart2.address tr (bootLines config.link status) (startCalls ++ calls)
        [.tick n.lastTxMs] := by
  obtain ⟨_, t₁, t₂, h₁, h₂, rfl⟩ := trace_bind_iff.mp h
  obtain ⟨_, t₃, t₄, h₃, h₄, rfl⟩ := trace_bind_iff.mp h₂
  have hboot := does_appUartWriteBytes (by decide) h₁
  have hrole := does_appUartWriteBytes (by cases board.duplexRole <;> decide) h₃
  split at h₄
  · obtain ⟨_, t₅, t₆, -, h₆, rfl⟩ := trace_bind_iff.mp h₄
    exact absurd (trace_pure_iff.mp h₆).2 (by simp)
  obtain ⟨_, t₅, t₆, h₅, h₆, rfl⟩ := trace_bind_iff.mp h₄
  have hboard := does_appUartWriteBytes (by decide) h₅
  split at h₆
  · obtain ⟨_, t₇, t₈, -, h₈, rfl⟩ := trace_bind_iff.mp h₆
    exact absurd (trace_pure_iff.mp h₈).2 (by simp)
  rename_i config hconfig
  obtain ⟨_, t₇, t₈, h₇, h₈, rfl⟩ := trace_bind_iff.mp h₆
  have hstart := does_appUartWriteBytes (by decide) h₇
  obtain ⟨started, t₉, t₁₀, h₉, h₁₀, rfl⟩ := trace_bind_iff.mp h₈
  obtain _ | _ | composition := started
  · exact absurd (trace_pure_iff.mp h₁₀).2 (by simp)
  · obtain ⟨_, t₁₁, t₁₂, -, h₁₂, rfl⟩ := trace_bind_iff.mp h₁₀
    exact absurd (trace_pure_iff.mp h₁₂).2 (by simp)
  obtain ⟨startCalls, hinit, hcalls⟩ := does_initLogged hconfig h₉
  obtain ⟨status, calls, backend, service, hn, hservice, hdoes⟩ :=
    does_appMainStarted (Stm32f401LinkComposition.trace_init hinit).1 h₁₀
  refine ⟨config, composition, startCalls, status, calls, backend, service, hconfig, hinit, hn,
    hservice, ?_⟩
  have hall := hboot.append (hrole.append (hboard.append (hstart.append (hcalls.append hdoes))))
  rw [bootLines, (of_configInitDefaults hconfig).1]
  simpa only [List.append_nil, List.nil_append, List.append_assoc] using hall

/-! ## What holds after each turn -/

theorem path_of_expands {device : Sx128x} {q q' : Sx128xPacketRadio × Stm32f4Sx128xPort}
    {linkTr : List LinkAction} {calls : List HalAction}
    (h : Expands (Stm32f401LinkComposition.linkHandler device bound) q linkTr calls q')
    (log : List DriverAction) : ∃ log', adapterEnv.Path (q.1, log) linkTr (q'.1, log') := by
  induction linkTr generalizing q calls log with
  | nil =>
    obtain ⟨-, rfl⟩ := h
    exact ⟨log, rfl⟩
  | cons a linkTr ih =>
    obtain ⟨m, t₁, t₂, h₁, h₂, -⟩ := h
    obtain ⟨driverTr, portTr, hdriver, -, -⟩ := Stm32f401LinkComposition.trace_linkHandler h₁
    obtain ⟨log', hpath⟩ := ih h₂ (log ++ driverTr)
    exact ⟨log', (m.1, log ++ driverTr), ⟨driverTr, hdriver, rfl⟩, hpath⟩

/-- A composition whose service has this log, on its adapter. -/
structure Serves (config : Stm32f401LinkCompositionConfig) (log : List LogEntry)
    (c : Stm32f401LinkComposition) : Prop where
  initialized : c.initialized = true
  session : Session config.link log .outside c.linkService
  composed : ∃ driverLog, Composed config.link config.packetRadio c.linkService
    (c.packetRadioAdapter, driverLog)

def IsData (request : LinkPacket) : Prop :=
  request.messageType = .data ∧
    request.payload.toList.take request.payloadLength.toNat = initiatorPayload

/-- The calls of the service in the log, after the one in its start, are the calls of the HAL from
some point on. -/
def Performed (bound : ℕ) (tr : List NodeAction) (log : List LogEntry) (n : LinkNode) : Prop :=
  ∃ now calls before after q, linkCalls log = atNow now :: calls ∧ halCalls tr = before ++ after ∧
    Expands (Stm32f401LinkComposition.linkHandler n.linkComposition.radioDevice bound) q calls after
      (n.linkComposition.packetRadioAdapter, n.linkComposition.radioPortBackend)

/-- The node follows the log of its service. -/
structure Followed (board : LinkNodeBoard) (bound : ℕ) (config : Stm32f401LinkCompositionConfig)
    (tr : List NodeAction) (log : List LogEntry) (n : LinkNode) : Prop where
  serves : Serves config log n.linkComposition
  logs : Logs board.huart2.address n.linkComposition
  drained : n.linkComposition.linkService.events.toList = []
  stored : ∀ event stored, .action (atPublished event stored) ∈ log → stored = true
  shown : ∃ status,
    console board.huart2.address tr = bootLines config.link status ++ log.flatMap entryText
  reported : reports log = happenings log
  performed : Performed bound tr log n
  requests : ∀ request, .began request ∈ log → IsData request
  paced : ∃ boot nowMs ms, marks tr = .tick boot :: ms ∧ Paced boot boot ms n.lastTxMs nowMs ∧
    ms.count .started = DuplexLinkService.starts log

theorem happenings_append (log log' : List LogEntry) :
    happenings (log ++ log') = happenings log ++ happenings log' := List.filterMap_append

theorem reports_append (log log' : List LogEntry) :
    reports (log ++ log') = reports log ++ reports log' := List.filterMap_append

theorem linkCalls_append (log log' : List LogEntry) :
    linkCalls (log ++ log') = linkCalls log ++ linkCalls log' := List.filterMap_append

theorem linkCalls_actions (linkTr : List LinkAction) :
    linkCalls (linkTr.map .action) = linkTr := by
  induction linkTr with
  | nil => rfl
  | cons a linkTr ih => exact congrArg (a :: ·) ih

theorem linkCalls_taken (events : List DuplexLinkEvent) :
    linkCalls (events.map .taken) = [] := by
  induction events with
  | nil => rfl
  | cons event events ih => exact ih

theorem happenings_taken (events : List DuplexLinkEvent) :
    happenings (events.map .taken) = [] := by
  induction events with
  | nil => rfl
  | cons event events ih => exact ih

theorem reports_taken (events : List DuplexLinkEvent) :
    reports (events.map .taken) = events.map .event := by
  induction events with
  | nil => rfl
  | cons event events ih => exact congrArg (.event event :: ·) ih

theorem reports_actions (linkTr : List LinkAction) : reports (linkTr.map .action) = [] := by
  induction linkTr with
  | nil => rfl
  | cons a linkTr ih => exact ih

theorem entryText_turn (linkTr : List LinkAction) (events : List DuplexLinkEvent) :
    (linkTr.map LogEntry.action ++ events.map LogEntry.taken).flatMap entryText =
      (linkTr.flatMap fun a => a.1.logLines.flatMap lineText) ++ events.flatMap (·.line) := by
  rw [List.flatMap_append, List.flatMap_map, List.flatMap_map]
  rfl

theorem starts_taken (events : List DuplexLinkEvent) :
    DuplexLinkService.starts (events.map .taken) = 0 := by
  induction events with
  | nil => rfl
  | cons event events ih => exact ih

/-- What a trace publishes has happened, when all of it was stored. -/
theorem happenings_actions {linkTr : List LinkAction}
    (hstored : ∀ event stored, atPublished event stored ∈ linkTr → stored = true) :
    happenings (linkTr.map .action) = (DuplexLinkService.published linkTr).map .event := by
  induction linkTr with
  | nil => rfl
  | cons a linkTr ih =>
    have ih := ih fun event stored h => hstored event stored (List.mem_cons_of_mem a h)
    obtain ⟨o, x⟩ := a
    cases o with
    | published event stored =>
      obtain rfl := hstored event stored List.mem_cons_self
      exact congrArg (.event event :: ·) ih
    | _ => exact ih

section Turn

variable {config : Stm32f401LinkCompositionConfig} {log : List LogEntry}
  {c c' : Stm32f401LinkComposition} {calls : List HalAction}

/-- A call of `process` with its log is one without, and writes what the service logs. -/
theorem does_processLogged {uart : ℕ} (hc : c.initialized = true) (hlogs : Logs uart c)
    (h : Trace (c.processLogged bound) tr (some c')) :
    ∃ linkTr service q calls, Trace (c.linkService.process bound) linkTr (some service) ∧
      Expands (Stm32f401LinkComposition.linkHandler c.radioDevice bound)
        (c.packetRadioAdapter, c.radioPortBackend) linkTr calls q ∧ c' = c.updated service q ∧
      Does uart tr (linkTr.flatMap fun a => a.1.logLines.flatMap lineText) calls [] := by
  rw [Stm32f401LinkComposition.processLogged, if_neg (not_not.mpr hc)] at h
  obtain ⟨r, t₁, t₂, h₁, h₂, rfl⟩ := trace_bind_iff.mp h
  obtain ⟨rfl, he⟩ := trace_pure_iff.mp h₂
  obtain ⟨⟨r, q⟩, rfl, hmap⟩ := Option.bind_eq_some_iff.mp he.symm
  obtain ⟨service, rfl, rfl⟩ := Option.map_eq_some_iff.mp hmap
  obtain ⟨linkTr, hlink, hx⟩ := trace_interp_iff.mp h₁
  obtain ⟨calls, hcalls, hdoes⟩ := does_expands hlogs.minLevel_eq hx
  rw [List.append_nil]
  exact ⟨linkTr, service, q, calls, hlink, hcalls, rfl, hlogs.uart_eq ▸ hdoes⟩

theorem Serves.process {uart : ℕ} (hs : Serves config log c) (hlogs : Logs uart c)
    (hdrained : c.linkService.events.toList = [])
    (h : Trace (c.processLogged bound) tr (some c')) :
    ∃ linkTr calls, Serves config (log ++ linkTr.map .action) c' ∧
      (c'.radioDevice = c.radioDevice ∧ c'.logger = c.logger) ∧
      Expands (Stm32f401LinkComposition.linkHandler c.radioDevice bound)
        (c.packetRadioAdapter, c.radioPortBackend) linkTr calls
        (c'.packetRadioAdapter, c'.radioPortBackend) ∧
      Does uart tr (linkTr.flatMap fun a => a.1.logLines.flatMap lineText) calls [] ∧
      (∀ event stored, atPublished event stored ∈ linkTr → stored = true) ∧
      c'.linkService.events.toList = DuplexLinkService.published linkTr := by
  obtain ⟨linkTr, service, q, calls, htrace, hx, rfl, hdoes⟩ :=
    does_processLogged hs.initialized hlogs h
  obtain ⟨driverLog, hcomposed⟩ := hs.composed
  obtain ⟨driverLog', hpath⟩ := path_of_expands hx driverLog
  obtain ⟨hstored, hevents⟩ := (DuplexLinkService.trace_process htrace).stored
    hcomposed.consistent hcomposed.inStep hpath (by rw [hdrained]; exact Nat.zero_le 3)
  rw [hdrained, List.nil_append] at hevents
  exact ⟨linkTr, calls, ⟨hs.initialized, hs.session.process htrace, driverLog',
    hcomposed.process ⟨linkTr, htrace, hpath⟩⟩, ⟨rfl, rfl⟩, hx, hdoes, hstored, hevents⟩

theorem Drains.serves {s service : DuplexLinkService} {events : List DuplexLinkEvent}
    (hs : Serves config log { c with linkService := s }) (h : Drains s events service) :
    Serves config (log ++ events.map .taken) { c with linkService := service } := by
  induction h generalizing log with
  | refl s =>
    rw [List.map_nil, List.append_nil]
    exact hs
  | take htake _ ih =>
    obtain ⟨driverLog, hcomposed⟩ := hs.composed
    rw [List.map_cons, List.append_cons]
    exact ih ⟨hs.initialized, hs.session.step (.taken htake), driverLog, hcomposed.takeEvent htake⟩

theorem Serves.startData (hs : Serves config log c) {payload : List UInt8} {started : Bool}
    (h : Trace (c.startData bound payload) calls (some (started, c'))) :
    (started = false ∧ c' = c ∧ calls = []) ∨
    (started = true ∧ ∃ now, Serves config
      (log ++ [.began (c.linkService.request .data payload), .action (atNow now)]) c' ∧
      (c'.radioDevice = c.radioDevice ∧ c'.logger = c.logger) ∧
      Expands (Stm32f401LinkComposition.linkHandler c.radioDevice bound)
        (c.packetRadioAdapter, c.radioPortBackend) [atNow now] calls
        (c'.packetRadioAdapter, c'.radioPortBackend) ∧
      c'.linkService.events = c.linkService.events) := by
  obtain ⟨linkTr, service, q, htrace, hx, rfl⟩ :=
    Stm32f401LinkComposition.trace_startRequest hs.initialized h
  rcases DuplexLinkService.trace_prepareRequest htrace with ⟨rfl, rfl, rfl⟩ | ⟨rfl, hcan, now, rfl, rfl⟩
  · obtain ⟨rfl, rfl⟩ := hx
    exact .inl ⟨rfl, rfl, rfl⟩
  · obtain ⟨driverLog, hcomposed⟩ := hs.composed
    obtain ⟨driverLog', hpath⟩ := path_of_expands hx driverLog
    exact .inr ⟨rfl, now, ⟨hs.initialized, hs.session.step (.began htrace), driverLog',
      hcomposed.start ⟨_, htrace, hpath⟩⟩, ⟨rfl, rfl⟩, hx, rfl⟩

end Turn

/-! ## Runs -/

variable {config : Stm32f401LinkCompositionConfig} {n n' : LinkNode} {log : List LogEntry}

theorem Serves.setResponsePayload {c : Stm32f401LinkComposition} {service : DuplexLinkService}
    (hs : Serves config log c)
    (h : service = c.linkService ∨
      service = (c.linkService.setResponsePayload responderPayload).2) :
    ∃ log', Serves config (log ++ log') { c with linkService := service } ∧
      (log' = [] ∨ log' = [.configured responderPayload]) ∧
      service.events = c.linkService.events := by
  obtain ⟨driverLog, hcomposed⟩ := hs.composed
  rcases h with rfl | rfl
  · refine ⟨[], ?_, .inl rfl, rfl⟩
    rw [List.append_nil]
    exact hs
  · obtain ⟨buffer, length, he⟩ :=
      DuplexLinkService.setResponsePayload_fields c.linkService responderPayload
    have hevents : (c.linkService.setResponsePayload responderPayload).2.events =
        c.linkService.events := by rw [he]
    have hnext := hcomposed.setResponsePayload responderPayload
    cases haccepted : (c.linkService.setResponsePayload responderPayload).1 with
    | true =>
      refine ⟨[.configured responderPayload], ⟨hs.initialized, ?_, driverLog, hnext⟩, .inr rfl,
        hevents⟩
      exact hs.session.step (.configured (Prod.ext haccepted rfl))
    | false =>
      refine ⟨[], ⟨hs.initialized, ?_, driverLog, hnext⟩, .inl rfl, hevents⟩
      exact hs.session.step (.notConfigured (Prod.ext haccepted rfl))

theorem followed_init (h : Trace (appMainInit board bound) tr (some (some n))) :
    ∃ config log, Stm32f401LinkComposition.configInitDefaults board.hspi1 board.huart2
      board.duplexRole = some config ∧ Followed board bound config tr log n := by
  obtain ⟨config, composition, startCalls, status, calls, backend, service, hconfig, hinit, hn,
    hservice, hdoes⟩ := does_appMainInit h
  obtain ⟨hready, -, adapter, backend₀, before, after, linkTr, hadapter, hlink, hx, rfl⟩ :=
    Stm32f401LinkComposition.trace_init hinit
  obtain ⟨driverLog, hpath⟩ := path_of_expands hx []
  have hs : Serves config (linkTr.map .action) { composition with radioPortBackend := backend } :=
    ⟨hready, .init hlink, driverLog, .init hadapter ⟨linkTr, hlink, hpath⟩⟩
  obtain ⟨-, now, rfl, hinitial⟩ := DuplexLinkService.trace_init hlink
  obtain ⟨log', hserves, hlog, hevents⟩ := hs.setResponsePayload hservice
  obtain ⟨huart, hlevel⟩ := logs_of_init hconfig hinit
  have hdrained : service.events.toList = [] := by
    rw [hevents]
    dsimp only
    rw [hinitial]
    rfl
  refine ⟨config, _, hconfig, ⟨hn ▸ hserves, hn ▸ ⟨huart, hlevel⟩, hn ▸ hdrained, ?_, ⟨status, ?_⟩,
    ?_, ?_, ?_, n.lastTxMs, n.lastTxMs, [], hdoes.marks_eq, ⟨rfl, rfl⟩, ?_⟩⟩
  · rcases hlog with rfl | rfl <;> simp
  · rw [hdoes.console_eq]
    rcases hlog with rfl | rfl <;> exact (List.append_nil _).symm
  · rcases hlog with rfl | rfl <;> rfl
  · refine ⟨now, [], _, [], _, ?_, (List.append_nil _).symm, rfl, rfl⟩
    rcases hlog with rfl | rfl <;> rfl
  · rcases hlog with rfl | rfl <;> simp
  · rcases hlog with rfl | rfl <;> rfl

theorem Followed.extend {tr' : List NodeAction} {log' : List LogEntry} {linkTr : List LinkAction}
    {text : List UInt8} {calls : List HalAction} {ms : List Mark}
    (hf : Followed board bound config tr log n) (hdoes : Does board.huart2.address tr' text calls ms)
    (hserves : Serves config (log ++ log') n'.linkComposition)
    (hdrained : n'.linkComposition.linkService.events.toList = [])
    (hstored : ∀ event stored, .action (atPublished event stored) ∈ log' → stored = true)
    (htext : text = log'.flatMap entryText) (hreports : reports log' = happenings log')
    (hcalls : linkCalls log' = linkTr)
    (hkept : n'.linkComposition.radioDevice = n.linkComposition.radioDevice ∧
      n'.linkComposition.logger = n.linkComposition.logger)
    (hx : Expands (Stm32f401LinkComposition.linkHandler n.linkComposition.radioDevice bound)
      (n.linkComposition.packetRadioAdapter, n.linkComposition.radioPortBackend) linkTr calls
      (n'.linkComposition.packetRadioAdapter, n'.linkComposition.radioPortBackend))
    (hrequests : ∀ request, .began request ∈ log' → IsData request)
    (hpaced : ∀ nowMs, ∃ nowMs', Paced n.lastTxMs nowMs ms n'.lastTxMs nowMs')
    (hcount : ms.count .started = DuplexLinkService.starts log') :
    Followed board bound config (tr ++ tr') (log ++ log') n' := by
  obtain ⟨status, hshown⟩ := hf.shown
  obtain ⟨now, linkCalls', before, after, q, hlink, hhal, hx'⟩ := hf.performed
  obtain ⟨boot, nowMs, ms', hmarks, hpace, hstarts⟩ := hf.paced
  obtain ⟨nowMs', hpace'⟩ := hpaced nowMs
  have hlogs : Logs board.huart2.address n'.linkComposition :=
    ⟨hkept.2 ▸ hf.logs.uart_eq, hkept.2 ▸ hf.logs.minLevel_eq⟩
  refine ⟨hserves, hlogs, hdrained, ?_, ⟨status, ?_⟩, ?_, ?_, ?_, boot, nowMs', ms' ++ ms, ?_,
    hpace.append hpace', ?_⟩
  · intro event stored hmem
    rcases List.mem_append.mp hmem with hmem | hmem
    · exact hf.stored event stored hmem
    · exact hstored event stored hmem
  · rw [console, List.flatMap_append, List.flatMap_append, ← List.append_assoc]
    exact congrArg₂ (· ++ ·) hshown (hdoes.console_eq.trans htext)
  · rw [reports_append, happenings_append, hf.reported, hreports]
  · refine ⟨now, linkCalls' ++ linkTr, before, after ++ calls, q, ?_, ?_, ?_⟩
    · rw [linkCalls_append, hlink, hcalls, List.cons_append]
    · rw [halCalls, List.filterMap_append, ← List.append_assoc]
      exact congrArg₂ (· ++ ·) hhal hdoes.halCalls_eq
    · rw [hkept.1]
      exact expands_append hx' hx
  · intro request hmem
    rcases List.mem_append.mp hmem with hmem | hmem
    · exact hf.requests request hmem
    · exact hrequests request hmem
  · rw [marks, List.filterMap_append]
    exact congrArg₂ (· ++ ·) hmarks hdoes.marks_eq
  · rw [List.count_append, hstarts, hcount, DuplexLinkService.starts_append]

/-- The call of the service, and the events that it has brought. -/
theorem Followed.reported_events {t t' : List NodeAction} {c c' : Stm32f401LinkComposition}
    (hf : Followed board bound config tr log n)
    (hprocess : Trace (n.linkComposition.processLogged bound) t (some c))
    (h : Trace (appProcessLinkEvents board bound c) t' (some c')) :
    ∃ log', Followed board bound config (tr ++ (t ++ t')) (log ++ log')
      { n with linkComposition := c' } := by
  obtain ⟨linkTr, calls, hserves, hkept, hx, hdoes, hstored, hevents⟩ :=
    hf.serves.process hf.logs hf.drained hprocess
  obtain ⟨hdoes', service, rfl, hdrained, hdrains⟩ :=
    does_appProcessLinkEvents hserves.initialized h
  have hnext := hdrains.serves hserves
  rw [List.append_assoc] at hnext
  have hall := hdoes.append hdoes'
  rw [List.append_nil, List.append_nil] at hall
  refine ⟨_, hf.extend hall hnext hdrained ?_ (entryText_turn _ _).symm ?_ ?_ hkept hx ?_
    (fun t => ⟨t, rfl, rfl⟩) ?_⟩
  · intro event stored hmem
    rcases List.mem_append.mp hmem with hmem | hmem
    · obtain ⟨a, ha, he⟩ := List.mem_map.mp hmem
      cases he
      exact hstored event stored ha
    · obtain ⟨a, -, he⟩ := List.mem_map.mp hmem
      cases he
  · rw [reports_append, reports_actions, reports_taken, happenings_append, happenings_taken,
      List.append_nil, happenings_actions hstored, hevents]
    rfl
  · rw [linkCalls_append, linkCalls_taken, linkCalls_actions, List.append_nil]
  · intro request hmem
    simp at hmem
  · rw [DuplexLinkService.starts_append, DuplexLinkService.starts_actions, starts_taken]
    rfl

theorem Followed.transmitted {t : List NodeAction} (hf : Followed board bound config tr log n)
    (h : Trace (appMainTransmit board bound n) t (some n')) :
    ∃ log', Followed board bound config (tr ++ t) (log ++ log') n' := by
  obtain ⟨nowMs, t₁, t₂, h₁, h₂, rfl⟩ := trace_bind_iff.mp h
  have htick := does_getTick board.huart2.address h₁
  have hidle {t' : List NodeAction} (hdoes : Does board.huart2.address t' [] [] []) {n₁ : LinkNode}
      (hn : n₁.linkComposition = n.linkComposition) (hlast : n₁.lastTxMs = n.lastTxMs) :
      ∃ log', Followed board bound config (tr ++ (t₁ ++ t')) (log ++ log') n₁ := by
    refine ⟨[], hf.extend (htick.append hdoes) ?_ (hn ▸ hf.drained) (by simp) rfl rfl rfl
      (by simp [hn]) ⟨rfl, by rw [hn]⟩ (by simp) (fun t => ⟨nowMs, hlast, rfl⟩) rfl⟩
    rw [List.append_nil, hn]
    exact hf.serves
  split at h₂
  · rename_i hlate
    obtain ⟨started, t₃, t₄, h₃, h₄, rfl⟩ := trace_bind_iff.mp h₂
    obtain ⟨calls, hstart, hcalls⟩ := does_onHal board.huart2.address h₃
    cases started with
    | none => exact absurd (trace_pure_iff.mp h₄).2 (by simp)
    | some r =>
      obtain ⟨started, c⟩ := r
      rcases hf.serves.startData hstart with
        ⟨rfl, rfl, rfl⟩ | ⟨rfl, now, hserves, hkept, hx, hevents⟩
      · obtain ⟨rfl, he⟩ := trace_pure_iff.mp h₄
        obtain rfl := Option.some.inj he
        rw [List.append_nil]
        exact hidle hcalls rfl rfl
      · obtain ⟨_, t₅, t₆, h₅, h₆, rfl⟩ := trace_bind_iff.mp h₄
        obtain ⟨rfl, he⟩ := trace_pure_iff.mp h₆
        obtain rfl := Option.some.inj he
        rw [List.append_nil]
        have hall := htick.append (hcalls.append (does_started h₅))
        rw [List.append_nil] at hall
        refine ⟨_, hf.extend hall hserves ?_ ?_ (List.append_nil _).symm rfl rfl hkept hx ?_
          (fun t => ⟨nowMs, hlate, rfl, rfl⟩) rfl⟩
        · dsimp only
          rw [hevents]
          exact hf.drained
        · intro event stored hmem
          simp [atNow, atPublished] at hmem
        · intro request hmem
          obtain rfl : request = n.linkComposition.linkService.request .data initiatorPayload := by
            simpa using hmem
          exact ⟨rfl, rfl⟩
  · obtain ⟨rfl, he⟩ := trace_pure_iff.mp h₂
    obtain rfl := Option.some.inj he
    exact hidle does_nil rfl rfl

/-- **A turn of the main loop keeps what is shown up with what has happened.** -/
theorem Followed.turn {t : List NodeAction} (hf : Followed board bound config tr log n)
    (h : Trace (appMainProcess board bound n) t (some n')) :
    ∃ log', Followed board bound config (tr ++ t) (log ++ log') n' := by
  obtain ⟨processed, t₁, t₂, h₁, h₂, rfl⟩ := trace_bind_iff.mp h
  cases processed with
  | none => exact absurd (trace_pure_iff.mp h₂).2 (by simp)
  | some c =>
    obtain ⟨reported, t₃, t₄, h₃, h₄, rfl⟩ := trace_bind_iff.mp h₂
    cases reported with
    | none => exact absurd (trace_pure_iff.mp h₄).2 (by simp)
    | some c' =>
      obtain ⟨log₁, hf₁⟩ := hf.reported_events h₁ h₃
      dsimp only at h₄
      split at h₄
      · obtain ⟨log₂, hf₂⟩ := hf₁.transmitted h₄
        rw [List.append_assoc, List.append_assoc, List.append_assoc] at hf₂
        exact ⟨_, hf₂⟩
      · obtain ⟨rfl, he⟩ := trace_pure_iff.mp h₄
        obtain rfl := Option.some.inj he
        rw [List.append_nil]
        exact ⟨log₁, hf₁⟩

theorem Run.followed (h : Run board bound tr n) :
    ∃ config log, Stm32f401LinkComposition.configInitDefaults board.hspi1 board.huart2
      board.duplexRole = some config ∧ Followed board bound config tr log n := by
  induction h with
  | init h => exact followed_init h
  | process _ h ih =>
    obtain ⟨config, log, hconfig, hf⟩ := ih
    obtain ⟨log', hf'⟩ := hf.turn h
    exact ⟨config, _, hconfig, hf'⟩

/-! ## Runs that can be computed -/

def exampleBoard (role : DuplexLinkRole) : LinkNodeBoard :=
  ⟨role, ⟨1, .spi1, Nat.one_ne_zero⟩, ⟨1, .usart2, Nat.one_ne_zero⟩⟩

/-- The tick stands still, the SPI answers with this status, and the radio has nothing to report. -/
def stillReply (tick : UInt32) (status : HalStatus) : (o : NodeOp) → o.Ans
  | .hal (.spiTransmitReceive _ _ _ _) => (status, [])
  | .hal (.gpioWritePin _ _) => ()
  | .hal (.gpioReadPin _) => false
  | .hal (.delay _) => ()
  | .hal .getTick => tick
  | .hal .loadProduced => 0
  | .hal .loadConsumed => 0
  | .hal (.storeConsumed _) => ()
  | .getTick => tick
  | .uartTransmit _ _ _ => .ok

/-- The start of a node at tick 0, and a turn of its main loop with each of the replies. -/
def exampleRun (board : LinkNodeBoard) (bound : ℕ) (replies : List (UInt32 × HalStatus)) :
    Option (List NodeAction × LinkNode) :=
  let r := exec (logged (stillReply 0 .ok)) (appMainInit board bound) []
  replies.foldl
    (fun s reply => s.bind fun s =>
      let r := exec (logged (stillReply reply.1 reply.2)) (appMainProcess board bound s.2) s.1
      r.1.map fun n => (r.2, n))
    ((r.1.bind id).map fun n => (r.2, n))

theorem run_exampleRun {replies : List (UInt32 × HalStatus)} {r : List NodeAction × LinkNode}
    (h : exampleRun board bound replies = some r) : Run board bound r.1 r.2 := by
  induction replies using List.reverseRecOn generalizing r with
  | nil =>
    obtain ⟨n, hn, rfl⟩ := Option.map_eq_some_iff.mp h
    obtain ⟨_, hr, rfl⟩ := Option.bind_eq_some_iff.mp hn
    obtain ⟨t, ht, hlog⟩ := exec_logged (stillReply 0 .ok) (appMainInit board bound) []
    rw [hr] at ht
    exact hlog ▸ .init ht
  | append_singleton replies reply ih =>
    rw [exampleRun, List.foldl_append] at h
    obtain ⟨s, hs, hnext⟩ := Option.bind_eq_some_iff.mp h
    obtain ⟨n, hn, rfl⟩ := Option.map_eq_some_iff.mp hnext
    obtain ⟨t, ht, hlog⟩ := exec_logged (stillReply reply.1 reply.2)
      (appMainProcess board bound s.2) s.1
    rw [hn] at ht
    exact hlog ▸ (ih hs).process ht

/-- **The console of a node is the text of a session of its link service.**  After any number of
turns, with any answers of the HAL: behind the boot lines there is, entry by entry, what the service
logs and what the application shows, and nothing else.  The application shows every event that the
service has published exactly once, and every request that was started, in the order in which they
happened; no event was dropped; and the calls of the session are the calls of the HAL. -/
theorem console_faithful (h : Run board bound tr n) :
    ∃ config log status,
      Stm32f401LinkComposition.configInitDefaults board.hspi1 board.huart2 board.duplexRole =
        some config ∧
      console board.huart2.address tr = bootLines config.link status ++ log.flatMap entryText ∧
      Session config.link log .outside n.linkComposition.linkService ∧ Performed bound tr log n ∧
      reports log = happenings log ∧
      (∀ event stored, .action (atPublished event stored) ∈ log → stored = true) ∧
      (∀ request, .began request ∈ log → IsData request) := by
  obtain ⟨config, log, hconfig, hf⟩ := h.followed
  obtain ⟨status, hshown⟩ := hf.shown
  exact ⟨config, log, status, hconfig, hshown, hf.serves.session, hf.performed, hf.reported,
    hf.stored, hf.requests⟩

/-- A request is started, the SPI fails, and the error is shown. -/
theorem console_faithful_spiError : ∃ (tr : List NodeAction) (n : LinkNode)
    (log : List LogEntry) (status : UInt8) (config : Stm32f401LinkCompositionConfig),
    Run (exampleBoard .initiator) 9 tr n ∧
    console 1 tr = bootLines (defaultConfig .initiator).link 0 ++ startedLine ++
      ascii "[SX128X] device error=261\r\n" ∧
    console 1 tr = bootLines config.link status ++ log.flatMap entryText ∧
    Session config.link log .outside n.linkComposition.linkService := by
  let r := exampleRun (exampleBoard .initiator) 9 [(1000, .ok), (1000, .error), (1000, .error)]
  have hconsole : r.map (console 1 ·.1) = some (bootLines (defaultConfig .initiator).link 0 ++
      startedLine ++ ascii "[SX128X] device error=261\r\n") := by decide +kernel
  obtain ⟨⟨tr, n⟩, hr, htr⟩ := Option.map_eq_some_iff.mp hconsole
  obtain ⟨config, log, status, -, hshown, hsession, -⟩ := console_faithful (run_exampleRun hr)
  exact ⟨tr, n, log, status, config, run_exampleRun hr, htr, hshown, hsession⟩

/-! ## Exchanges on the console -/

def turns (log : List LogEntry) : List Bool := (happenings log).filterMap Happening.turn

theorem turns_append (log log' : List LogEntry) : turns (log ++ log') = turns log ++ turns log' := by
  rw [turns, happenings_append, List.filterMap_append]
  rfl

theorem turns_published_neutral {event : DuplexLinkEvent} {stored : Bool}
    (h : ¬ DuplexLinkService.IsEnd event) : turns [.action (atPublished event stored)] = [] := by
  simp [turns, happenings, Happening.turn, h]

theorem turns_published_end {event : DuplexLinkEvent} {stored : Bool}
    (h : DuplexLinkService.IsEnd event) : turns [.action (atPublished event stored)] = [false] := by
  simp [turns, happenings, Happening.turn, h]

theorem turns_neutral {linkTr : List LinkAction}
    (h : ∀ a ∈ linkTr, DuplexLinkService.Neutral a) : turns (linkTr.map .action) = [] := by
  induction linkTr with
  | nil => rfl
  | cons a linkTr ih =>
    obtain ⟨ha, hrest⟩ := List.forall_mem_cons.mp h
    obtain ⟨o, x⟩ := a
    cases o with
    | published event stored =>
      have hnone : turns [.action (atPublished event stored)] = [] := turns_published_neutral ha
      have hcons := turns_append [.action (atPublished event stored)] (linkTr.map .action)
      rw [hnone, ih hrest] at hcons
      exact hcons
    | _ => exact ih hrest

theorem takeTurns_of_exchangeStep {l l' : DuplexLinkService.Ledger}
    {state state' : DuplexLinkState} {linkTr : List LinkAction}
    (h : DuplexLinkService.ExchangeStep l state linkTr l' state')
    (hr : l.config.role = .initiator) :
    TakeTurns l.requestActive (turns (linkTr.map .action)) l'.requestActive := by
  cases h with
  | quiet hn _ =>
    rw [turns_neutral hn]
    rfl
  | responder hresponder => exact absurd (hr.symm.trans hresponder) (by decide)
  | @refused rest _ _ _ hn =>
    change TakeTurns _ (turns (rest.map .action)) _
    rw [turns_neutral hn]
    rfl
  | @sent rest _ _ _ hn _ =>
    change TakeTurns _ (turns (rest.map .action)) _
    rw [turns_neutral hn]
    rfl
  | retried _ _ hn =>
    rw [turns_neutral hn]
    rfl
  | ended stored ha he _ hb _ =>
    rw [List.map_append, turns_append, turns_neutral hb, ha]
    exact (turns_published_end he).symm ▸ ⟨rfl, rfl⟩

theorem starts_eq_count (log : List LogEntry) :
    DuplexLinkService.starts log = (turns log).count true := by
  induction log with
  | nil => rfl
  | cons entry log ih =>
    have hcons := turns_append [entry] log
    rw [List.singleton_append] at hcons
    have hstarts := DuplexLinkService.starts_append [entry] log
    rw [List.singleton_append] at hstarts
    rw [hcons, hstarts, List.count_append, ih]
    congr 1
    cases entry with
    | action a =>
      obtain ⟨o, x⟩ := a
      cases o with
      | published event stored =>
        by_cases he : DuplexLinkService.IsEnd event
        · exact congrArg (List.count true) (turns_published_end he).symm
        · exact congrArg (List.count true) (turns_published_neutral he).symm
      | _ => rfl
    | _ => rfl

/-- Beginnings and ends take turns in every session of an initiator. -/
theorem takeTurns_session {config : DuplexLinkConfig} {p : DuplexLinkService.CallPoint}
    {s : DuplexLinkService} (h : Session config log p s) (hr : config.role = .initiator) :
    TakeTurns false (turns log) s.requestActive := by
  refine (h.invariant (I := fun log s => (DuplexLinkService.Consistent s ∧ s.config = config) ∧
    TakeTurns false (turns log) s.requestActive) ⟨?_, ?_, ?_, ?_, ?_⟩ ?_).2
  · intro log s a ha hs
    rw [turns_append, show turns [.action a] = [] by rcases ha with rfl | ⟨event, rfl⟩ <;> rfl,
      List.append_nil]
    exact hs
  · intro log s event events _ hs
    rw [turns_append]
    exact ⟨hs.1, hs.2.append rfl⟩
  · intro log s messageType payload now hc hs
    rw [turns_append]
    have hbegan := hc.inactive ▸ hs.2
    exact ⟨⟨DuplexLinkService.consistent_requested hc _ now, hs.1.2⟩, hbegan.append ⟨rfl, rfl⟩⟩
  · intro log s payload _ _ hs
    rw [turns_append]
    exact ⟨hs.1, hs.2.append rfl⟩
  · intro log s linkTr s' hp hs
    rw [turns_append]
    exact ⟨⟨hp.consistent hs.1.1, hp.config.trans hs.1.2⟩, hs.2.append
      (takeTurns_of_exchangeStep (hp.exchangeStep hs.1.1)
        ((congrArg DuplexLinkConfig.role hs.1.2).trans hr))⟩
  · intro now _
    exact ⟨⟨DuplexLinkService.consistent_initial config now, rfl⟩, rfl⟩

/-- **On the console of an initiator exchanges begin at a steady pace and end one by one.**  After
the line that a request was started the application shows exactly one end of it before the next
such line; and each start comes at least a second, in ticks of 32 bits, after the one before. -/
theorem exchanges_paced (h : Run board bound tr n) (hr : board.duplexRole = .initiator) :
    ∃ config log status boot nowMs ms,
      Stm32f401LinkComposition.configInitDefaults board.hspi1 board.huart2 board.duplexRole =
        some config ∧
      console board.huart2.address tr = bootLines config.link status ++ log.flatMap entryText ∧
      Session config.link log .outside n.linkComposition.linkService ∧ Performed bound tr log n ∧
      TakeTurns false ((reports log).filterMap Happening.turn)
        n.linkComposition.linkService.requestActive ∧
      marks tr = .tick boot :: ms ∧ Paced boot boot ms n.lastTxMs nowMs ∧
      ms.count .started = ((reports log).filterMap Happening.turn).count true := by
  obtain ⟨config, log, hconfig, hf⟩ := h.followed
  obtain ⟨status, hshown⟩ := hf.shown
  obtain ⟨boot, nowMs, ms, hmarks, hpaced, hcount⟩ := hf.paced
  have hrole : config.link.role = .initiator := (of_configInitDefaults hconfig).1.trans hr
  refine ⟨config, log, status, boot, nowMs, ms, hconfig, hshown, hf.serves.session, hf.performed,
    ?_, hmarks, hpaced, ?_⟩
  · rw [hf.reported]
    exact takeTurns_session hf.serves.session hrole
  · rw [hf.reported]
    exact hcount.trans (starts_eq_count log)

/-- An initiator without an answer.  It sends the request four times, reports the exchange as
failed and starts the next one. -/
theorem exchanges_paced_unanswered : ∃ (tr : List NodeAction) (n : LinkNode) (log : List LogEntry),
    Run (exampleBoard .initiator) 9 tr n ∧ TakeTurns false ((reports log).filterMap Happening.turn)
      true ∧ ((reports log).filterMap Happening.turn).count true = 2 ∧
    console 1 tr = bootLines (defaultConfig .initiator).link 0 ++ startedLine ++
        (ascii "[WARN] [DUPLEX_LINK] Retry seq=1 retry=1/3\n" ++
        (ascii "[WARN] [DUPLEX_LINK] Retry seq=1 retry=2/3\n" ++
        (ascii "[WARN] [DUPLEX_LINK] Retry seq=1 retry=3/3\n" ++
        (ascii "[WARN] [DUPLEX_LINK] Exchange failed seq=1 attempts=4\n" ++
        (ascii "[APP] exchange FAILED seq=1 attempts=4\r\n" ++ startedLine))))) := by
  let r := exampleRun (exampleBoard .initiator) 9
    [(1000, .ok), (1000, .ok), (1250, .ok), (1500, .ok), (1750, .ok), (2000, .ok)]
  have hresult : r.map (fun r => (console 1 r.1,
      r.2.linkComposition.linkService.requestActive, (marks r.1).count .started)) = some
      (bootLines (defaultConfig .initiator).link 0 ++ startedLine ++
        (ascii "[WARN] [DUPLEX_LINK] Retry seq=1 retry=1/3\n" ++
        (ascii "[WARN] [DUPLEX_LINK] Retry seq=1 retry=2/3\n" ++
        (ascii "[WARN] [DUPLEX_LINK] Retry seq=1 retry=3/3\n" ++
        (ascii "[WARN] [DUPLEX_LINK] Exchange failed seq=1 attempts=4\n" ++
        (ascii "[APP] exchange FAILED seq=1 attempts=4\r\n" ++ startedLine))))), true, 2) := by
    decide +kernel
  obtain ⟨⟨tr, n⟩, hr, htr⟩ := Option.map_eq_some_iff.mp hresult
  obtain ⟨hconsole, hrest⟩ := Prod.mk.inj htr
  obtain ⟨hactive, hstarted⟩ := Prod.mk.inj hrest
  obtain ⟨_, log, _, _, _, ms, -, -, -, -, hturns, hmarks, -, hcount⟩ :=
    exchanges_paced (run_exampleRun hr) rfl
  refine ⟨tr, n, log, run_exampleRun hr, hactive ▸ hturns, ?_, hconsole⟩
  rw [← hcount, ← hstarted]
  dsimp only
  rw [hmarks]
  rfl

end LinkNode

end RadioConnection
