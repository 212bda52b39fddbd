import DiagnosticAdapter.Effects.Run

/-!
# The asynchronous TLS stream

`TlsStream` over a transport that takes any part of what it is offered, or blocks.  What a
call of mbedtls does is given by its return code and the callbacks it makes.
-/

namespace DiagnosticAdapter.Tls

open Effects

def errSslWantRead : Int := -0x6900
def errSslWantWrite : Int := -0x6880
def errSslPeerCloseNotify : Int := -0x7880

inductive Poll (Value : Type) where
  | ready (value : Value)
  | pending
  deriving DecidableEq, Repr

structure MemBio where
  incoming : List UInt8
  incomingCursor : Nat
  outgoing : List UInt8
  deriving DecidableEq, Repr

/-- A callback: `membio_send` with a record, or `membio_recv` with the size of a buffer. -/
inductive BioCall where
  | send (record : List UInt8)
  | recv (len : Nat)
  deriving DecidableEq, Repr

structure SslCall where
  ret : Int
  calls : List BioCall
  deriving DecidableEq, Repr

def SslCall.ciphertext (ssl : SslCall) : List UInt8 :=
  ssl.calls.flatMap fun
    | .send record => record
    | .recv _ => []

/-- The number of bytes of the buffer that `ssl_write` has consumed. -/
def SslCall.consumed (ssl : SslCall) : Nat := ssl.ret.toNat

namespace MemBio

def new : MemBio := ⟨[], 0, []⟩

def feedIncoming (bio : MemBio) (data : List UInt8) : MemBio :=
  { bio with incoming := bio.incoming.drop bio.incomingCursor ++ data, incomingCursor := 0 }

def incomingAvailable (bio : MemBio) : Nat := bio.incoming.length - bio.incomingCursor

/-- The bytes of `read_incoming` go to mbedtls. -/
def readIncoming (bio : MemBio) (len : Nat) : MemBio :=
  { bio with incomingCursor := bio.incomingCursor + min bio.incomingAvailable len }

def callback (bio : MemBio) : BioCall → MemBio
  | .send record => { bio with outgoing := bio.outgoing ++ record }
  | .recv len => bio.readIncoming len

def run (bio : MemBio) (ssl : SslCall) : MemBio := ssl.calls.foldl callback bio

end MemBio

/-- `inner` is what the transport has taken so far. -/
structure TlsStream where
  bio : MemBio
  inner : List UInt8
  deriving DecidableEq, Repr

/-- The loop over `inner.poll_write`: what the transport has taken where the counts end, and what
is left. -/
def writeLoop : List UInt8 → List Nat → List UInt8 × List UInt8
  | [], _ => ([], [])
  | byte :: data, [] => ([], byte :: data)
  | byte :: data, count :: counts =>
    let (taken, left) := writeLoop ((byte :: data).drop count) counts
    ((byte :: data).take count ++ taken, left)

namespace TlsStream

def new : TlsStream := ⟨.new, []⟩

def callSsl (stream : TlsStream) (ssl : SslCall) : TlsStream :=
  { stream with bio := stream.bio.run ssl }

/-- The transport has blocked before everything was written; what is left is put back. -/
def checkWriteFlush (stream : TlsStream) (counts : List Nat) : Bool × TlsStream :=
  let (taken, left) := writeLoop stream.bio.outgoing counts
  (!left.isEmpty, ⟨{ stream.bio with outgoing := left }, stream.inner ++ taken⟩)

def pollWrite (stream : TlsStream) (ssl : SslCall) (counts : List Nat) :
    Poll (Except Int Nat) × TlsStream :=
  let (blocked, stream) := (stream.callSsl ssl).checkWriteFlush counts
  if blocked then (.pending, stream)
  else if 0 ≤ ssl.ret then (.ready (.ok ssl.ret.toNat), stream)
  else if ssl.ret = errSslWantWrite then (.pending, stream)
  else (.ready (.error ssl.ret), stream)

def pollFlush (stream : TlsStream) (counts : List Nat) (inner : Poll (Except Int Unit)) :
    Poll (Except Int Unit) × TlsStream :=
  let (blocked, stream) := stream.checkWriteFlush counts
  if blocked then (.pending, stream) else (inner, stream)

/-- The transport gives the reads before it blocks or ends; the result is the number of
bytes that are decrypted. -/
def pollRead (stream : TlsStream) (reads : List (List UInt8)) (ssl : SslCall)
    (counts : List Nat) : Poll (Except Int Nat) × TlsStream :=
  let fed := { stream with bio := reads.foldl MemBio.feedIncoming stream.bio }
  -- a flush that is blocked is left to the next one
  let (_, stream) := (fed.callSsl ssl).checkWriteFlush counts
  if 0 ≤ ssl.ret then (.ready (.ok ssl.ret.toNat), stream)
  else if ssl.ret = errSslWantRead then (.pending, stream)
  else if ssl.ret = errSslPeerCloseNotify then (.ready (.ok 0), stream)
  else (.ready (.error ssl.ret), stream)

end TlsStream

/-- A buffer that was answered with `Pending`, and how many bytes mbedtls has consumed of it. -/
structure Offer where
  buffer : List UInt8
  consumed : Nat
  deriving DecidableEq, Repr

/-- The stream with the ciphertext, the plaintext handed to mbedtls, the plaintext reported as
written, and the buffer to be offered again. -/
structure Session where
  stream : TlsStream
  ciphertext : List UInt8
  handed : List UInt8
  reported : List UInt8
  offer : Option Offer
  deriving DecidableEq, Repr

inductive SessionEvent where
  | pollWrite (buffer : List UInt8) (ssl : SslCall) (counts : List Nat)
  | pollFlush (counts : List Nat) (inner : Poll (Except Int Unit))
  | pollRead (reads : List (List UInt8)) (ssl : SslCall) (counts : List Nat)

namespace Session

def initial : Session := ⟨.new, [], [], [], none⟩

/-- mbedtls consumes the first bytes of the buffer. -/
def write (session : Session) (buffer : List UInt8) (ssl : SslCall) (counts : List Nat) :
    Session :=
  let (result, stream) := session.stream.pollWrite ssl counts
  { stream := stream
    ciphertext := session.ciphertext ++ ssl.ciphertext
    handed := session.handed ++ buffer.take ssl.consumed
    reported :=
      match result with
      | .ready (.ok count) => session.reported ++ buffer.take count
      | _ => session.reported
    offer :=
      match result with
      | .pending =>
        some ⟨buffer, (session.offer.map (·.consumed)).getD 0 + ssl.consumed⟩
      | .ready _ => none }

/-- The caller offers a buffer again after `Pending`. -/
def step (session : Session) : SessionEvent → Option Session
  | .pollWrite buffer ssl counts =>
    if session.offer.all (·.buffer = buffer) && ssl.consumed ≤ buffer.length then
      some (session.write buffer ssl counts)
    else none
  | .pollFlush counts inner =>
    some { session with stream := (session.stream.pollFlush counts inner).2 }
  | .pollRead reads ssl counts =>
    some { session with
      stream := (session.stream.pollRead reads ssl counts).2
      ciphertext := session.ciphertext ++ ssl.ciphertext }

/-- No buffer is offered again of which mbedtls has consumed something. -/
def unconsumed (session : Session) : SessionEvent → Bool
  | .pollWrite .. => session.offer.all (·.consumed = 0)
  | _ => true

/-- Every byte is handed to mbedtls once, and every byte of ciphertext is sent once. -/
structure Delivered (session : Session) : Prop where
  plaintext : ∃ rest, session.handed = session.reported ++ rest ∧
    (rest = [] ∨ ∃ offer, session.offer = some offer ∧ rest <+: offer.buffer)
  ciphertext : session.stream.inner ++ session.stream.bio.outgoing = session.ciphertext

end Session

theorem writeLoop_append (data : List UInt8) (counts : List Nat) :
    (writeLoop data counts).1 ++ (writeLoop data counts).2 = data := by
  fun_induction writeLoop data counts with
  | case1 => rfl
  | case2 => rfl
  | case3 byte data count counts taken left result ih =>
    rw [result] at ih
    rw [List.append_assoc, ih, List.take_append_drop]

theorem MemBio.outgoing_run (bio : MemBio) (ssl : SslCall) :
    (bio.run ssl).outgoing = bio.outgoing ++ ssl.ciphertext := by
  obtain ⟨ret, calls⟩ := ssl
  simp only [MemBio.run, SslCall.ciphertext]
  induction calls generalizing bio with
  | nil => simp
  | cons call calls ih =>
    rw [List.foldl_cons, ih, List.flatMap_cons, ← List.append_assoc]
    cases call with
    | send record => rfl
    | recv len => simp [callback, readIncoming]

theorem MemBio.outgoing_feedAll (bio : MemBio) (reads : List (List UInt8)) :
    (reads.foldl feedIncoming bio).outgoing = bio.outgoing := by
  induction reads generalizing bio with
  | nil => rfl
  | cons data reads ih => exact ih _

namespace TlsStream

def sent (stream : TlsStream) : List UInt8 := stream.inner ++ stream.bio.outgoing

section

variable (stream : TlsStream)

include stream

theorem sent_callSsl (ssl : SslCall) :
    (stream.callSsl ssl).sent = stream.sent ++ ssl.ciphertext := by
  simp only [sent, callSsl, MemBio.outgoing_run, List.append_assoc]

theorem sent_checkWriteFlush (counts : List Nat) :
    (stream.checkWriteFlush counts).2.sent = stream.sent := by
  simp only [sent, checkWriteFlush, List.append_assoc, writeLoop_append]

theorem sent_pollWrite (ssl : SslCall) (counts : List Nat) :
    (stream.pollWrite ssl counts).2.sent = stream.sent ++ ssl.ciphertext := by
  rw [← sent_callSsl, ← sent_checkWriteFlush (stream.callSsl ssl) counts, pollWrite]
  dsimp only
  repeat' split
  all_goals rfl

theorem sent_pollFlush (counts : List Nat) (inner : Poll (Except Int Unit)) :
    (stream.pollFlush counts inner).2.sent = stream.sent := by
  rw [← sent_checkWriteFlush stream counts, pollFlush]
  dsimp only
  split <;> rfl

theorem sent_pollRead (reads : List (List UInt8)) (ssl : SslCall) (counts : List Nat) :
    (stream.pollRead reads ssl counts).2.sent = stream.sent ++ ssl.ciphertext := by
  have fed : TlsStream.sent { stream with bio := reads.foldl MemBio.feedIncoming stream.bio } =
      stream.sent := by
    simp only [sent, MemBio.outgoing_feedAll]
  rw [← fed, ← sent_callSsl, ← sent_checkWriteFlush (TlsStream.callSsl _ ssl) counts, pollRead]
  dsimp only
  repeat' split
  all_goals rfl

end

/-- What `poll_write` reports as written is what mbedtls has consumed. -/
theorem consumed_of_pollWrite {stream next : TlsStream} {ssl : SslCall} {counts : List Nat}
    {result : Except Int Nat} (ready : stream.pollWrite ssl counts = (.ready result, next)) :
    result.toOption.getD 0 = ssl.consumed := by
  rw [pollWrite] at ready
  dsimp only at ready
  split at ready
  · cases ready
  · split at ready
    · cases ready
      rfl
    · rename_i negative
      have none : ssl.ret.toNat = 0 := by omega
      split at ready
      · cases ready
      · cases ready
        exact none.symm

end TlsStream

namespace Session

variable {session next : Session} {event : SessionEvent}

theorem ciphertext_of_step (ordered : session.stream.sent = session.ciphertext)
    (taken : session.step event = some next) : next.stream.sent = next.ciphertext := by
  cases event with
  | pollWrite buffer ssl counts =>
    rw [step] at taken
    split at taken
    · cases taken
      exact (TlsStream.sent_pollWrite ..).trans (congrArg (· ++ ssl.ciphertext) ordered)
    · cases taken
  | pollFlush counts inner =>
    cases taken
    exact (TlsStream.sent_pollFlush ..).trans ordered
  | pollRead reads ssl counts =>
    cases taken
    exact (TlsStream.sent_pollRead ..).trans (congrArg (· ++ ssl.ciphertext) ordered)

/-- Nothing else than the end of a pending buffer separates the two sides. -/
def Matched (session : Session) : Prop :=
  session.handed = session.reported ++
    match session.offer with
    | some offer => offer.buffer.take offer.consumed
    | none => []

section

variable (matched : session.Matched) (unconsumed : session.offer.all (·.consumed = 0) = true)

include matched unconsumed

theorem handed_eq_reported : session.handed = session.reported := by
  rw [matched]
  cases offered : session.offer with
  | none => exact List.append_nil _
  | some offer =>
    rw [offered] at unconsumed
    simp only [Option.all_some, decide_eq_true_eq] at unconsumed
    simp [unconsumed]

theorem matched_write (buffer : List UInt8) (ssl : SslCall) (counts : List Nat) :
    (session.write buffer ssl counts).Matched := by
  have before := handed_eq_reported matched unconsumed
  cases polled : session.stream.pollWrite ssl counts with
  | mk result stream =>
    cases result with
    | pending =>
      have count : (session.offer.map (·.consumed)).getD 0 = 0 := by
        cases offered : session.offer with
        | none => rfl
        | some offer =>
          rw [offered] at unconsumed
          simpa using unconsumed
      simp only [Matched, write, polled, before, count, Nat.zero_add]
    | ready result =>
      have consumed := TlsStream.consumed_of_pollWrite polled
      cases result with
      | ok count =>
        simp only [Matched, write, polled, before, List.append_nil]
        rw [← consumed]
        rfl
      | error error =>
        simp only [Matched, write, polled, before, List.append_nil]
        rw [← consumed]
        exact List.append_nil _

end

theorem matched_of_step (matched : session.Matched) (guarded : session.unconsumed event = true)
    (taken : session.step event = some next) : next.Matched := by
  cases event with
  | pollWrite buffer ssl counts =>
    rw [step] at taken
    split at taken
    · cases taken
      exact matched_write matched guarded buffer ssl counts
    · cases taken
  | pollFlush counts inner | pollRead reads ssl counts =>
    cases taken
    exact matched

theorem ciphertext_of_run {events : List SessionEvent}
    (run : Run (fun session event next => session.step event = some next) initial events
      session) : session.stream.sent = session.ciphertext :=
  run.keeps (fun _ session => session.stream.sent = session.ciphertext) rfl
    fun _ _ _ _ => ciphertext_of_step

theorem delivered_of_run {events : List SessionEvent} (run : Run (fun session event next =>
      session.step event = some next ∧ session.unconsumed event = true) initial events session) :
    session.Delivered := by
  have matched : session.Matched :=
    run.keeps (fun _ session => session.Matched) rfl
      fun _ _ _ _ matched taken => matched_of_step matched taken.2 taken.1
  constructor
  · refine ⟨_, matched, ?_⟩
    cases session.offer with
    | none => exact Or.inl rfl
    | some offer => exact Or.inr ⟨offer, rfl, List.take_prefix _ _⟩
  · exact ciphertext_of_run (run.mono fun _ _ _ taken => taken.1)

/-- The transport takes a part of the first record and blocks; it is flushed later. -/
def flushedLater : List SessionEvent :=
  [.pollWrite [0x3E, 0x00] ⟨2, [.send [0x17, 0x01]]⟩ [1, 1],
    .pollWrite [0x22, 0xF1] ⟨2, [.send [0x17, 0x02]]⟩ [1],
    .pollRead [[0x17, 0x03]] ⟨1, [.recv 5]⟩ [],
    .pollFlush [4] (.ready (.ok ()))]

theorem flushedLater_delivered : ∃ session, Run (fun session event next =>
        session.step event = some next ∧ session.unconsumed event = true) initial flushedLater
        session ∧
      session.Delivered :=
  ⟨_, Run.of_guarded_foldlM rfl, @delivered_of_run _ flushedLater (Run.of_guarded_foldlM rfl)⟩

def offeredAgain : List SessionEvent :=
  [.pollWrite [0x3E, 0x00] ⟨2, [.send [0x17, 0x01]]⟩ [],
    .pollWrite [0x3E, 0x00] ⟨2, [.send [0x17, 0x02]]⟩ [4]]

theorem offeredAgain_duplicated : ¬∀ (events : List SessionEvent) (session : Session),
        Run (fun session event next => session.step event = some next) initial events session →
        session.Delivered := by
  intro delivered
  obtain ⟨rest, handed, cause⟩ := (delivered offeredAgain _ (Run.of_foldlM rfl)).plaintext
  obtain rfl | ⟨_, offered, _⟩ := cause
  · cases handed
  · cases offered

end Session

end DiagnosticAdapter.Tls
