import DiagnosticAdapter.Tls.Stream

/-!
# Reading over any transport

`poll_read` reads until the transport stops giving data, lets mbedtls decrypt, and writes
what mbedtls has produced.  Both loops go on for as long as the transport answers, which the
fuel stands for.
-/

namespace DiagnosticAdapter.Tls

open Effects

/-- The answer of `inner.poll_read`; no data is the end of the transport. -/
inductive InnerRead where
  | ready (data : List UInt8)
  | failed (error : Int)
  | pending
  deriving DecidableEq, Repr

inductive InnerWrite where
  | ready (count : Nat)
  | failed (error : Int)
  | pending
  deriving DecidableEq, Repr

inductive StreamError where
  | inner (error : Int)
  | ssl (ret : Int)
  deriving DecidableEq, Repr

inductive Flush where
  | done
  | failed (error : Int)
  | pending
  deriving DecidableEq, Repr

/-- What the transport answers to the reads and to the writes of one call. -/
structure Transport where
  reads : Nat → InnerRead
  writes : Nat → InnerWrite

def InnerRead.isData : InnerRead → Bool
  | .ready data => !data.isEmpty
  | _ => false

namespace InnerWrite

def isReady : InnerWrite → Bool
  | .ready _ => true
  | _ => false

def count : InnerWrite → Nat
  | .ready count => count
  | _ => 0

end InnerWrite

namespace MemBio

def waiting (bio : MemBio) : List UInt8 := bio.incoming.drop bio.incomingCursor

/-- The bytes that `membio_recv` copies into the buffers of mbedtls. -/
def handed : MemBio → List BioCall → List UInt8
  | _, [] => []
  | bio, .send record :: calls => (bio.callback (.send record)).handed calls
  | bio, .recv len :: calls =>
    bio.waiting.take (min bio.incomingAvailable len) ++ (bio.callback (.recv len)).handed calls

end MemBio

/-- The loop over `inner.poll_read`: the answer that ends it, what was fed, and the buffers. -/
def readLoop : Nat → (Nat → InnerRead) → MemBio → Option (InnerRead × List UInt8 × MemBio)
  | 0, _, _ => none
  | fuel + 1, reads, bio =>
    match reads 0 with
    | .ready (byte :: data) => do
      let (last, fed, bio) ←
        readLoop fuel (fun n => reads (n + 1)) (bio.feedIncoming (byte :: data))
      some (last, byte :: data ++ fed, bio)
    | last => some (last, [], bio)

/-- The loop over `inner.poll_write`: how it ends, what the transport has taken, and what is put
back. -/
def flushLoop : Nat → (Nat → InnerWrite) → List UInt8 → Option (Flush × List UInt8 × List UInt8)
  | _, _, [] => some (.done, [], [])
  | 0, _, _ :: _ => none
  | fuel + 1, writes, byte :: data =>
    match writes 0 with
    | .ready count => do
      let (flush, taken, left) ←
        flushLoop fuel (fun n => writes (n + 1)) ((byte :: data).drop count)
      some (flush, (byte :: data).take count ++ taken, left)
    | .failed error => some (.failed error, [], [])
    | .pending => some (.pending, [], byte :: data)

/-- The outcome of `poll_read`, with the last answer of the transport, what the transport has
fed in the call and what mbedtls has taken. -/
structure Polled where
  result : Poll (Except StreamError Nat)
  lastRead : InnerRead
  fed : List UInt8
  handed : List UInt8
  stream : TlsStream
  deriving DecidableEq, Repr

namespace Transport

def checkWriteFlush (transport : Transport) (fuel : Nat) (stream : TlsStream) :
    Option (Flush × TlsStream) := do
  let (flush, taken, left) ← flushLoop fuel transport.writes stream.bio.outgoing
  some (flush, ⟨{ stream.bio with outgoing := left }, stream.inner ++ taken⟩)

/-- The result by the return code of `mbedtls_ssl_read`. -/
def readResult (ret : Int) : Poll (Except StreamError Nat) :=
  if 0 ≤ ret then .ready (.ok ret.toNat)
  else if ret = errSslWantRead then .pending
  else if ret = errSslPeerCloseNotify then .ready (.ok 0)
  else .ready (.error (.ssl ret))

def pollRead (transport : Transport) (fuel : Nat) (stream : TlsStream) (ssl : SslCall) :
    Option Polled := do
  let (last, fed, bio) ← readLoop fuel transport.reads stream.bio
  match last with
  | .failed error =>
    some ⟨.ready (.error (.inner error)), last, fed, [], { stream with bio := bio }⟩
  | _ =>
    let (flush, flushed) ←
      transport.checkWriteFlush fuel (TlsStream.callSsl { stream with bio := bio } ssl)
    match flush with
    | .failed error =>
      some ⟨.ready (.error (.inner error)), last, fed, bio.handed ssl.calls, flushed⟩
    -- a flush that is blocked is left to the next one
    | _ => some ⟨readResult ssl.ret, last, fed, bio.handed ssl.calls, flushed⟩

end Transport

/-- A stream with all that the transport has fed and all that mbedtls has taken. -/
structure Feed where
  stream : TlsStream
  fed : List UInt8
  handed : List UInt8
  deriving DecidableEq, Repr

/-- `poll_read`, and `poll_write`, `poll_flush` and `poll_shutdown`, in which mbedtls may read
before the flush. -/
inductive FeedEvent where
  | pollRead (transport : Transport) (fuel : Nat) (ssl : SslCall)
  | callFlush (transport : Transport) (fuel : Nat) (ssl : SslCall)

def Feed.step (feed : Feed) : FeedEvent → Option Feed
  | .pollRead transport fuel ssl => do
    let polled ← transport.pollRead fuel feed.stream ssl
    some ⟨polled.stream, feed.fed ++ polled.fed, feed.handed ++ polled.handed⟩
  | .callFlush transport fuel ssl => do
    let (_, flushed) ← transport.checkWriteFlush fuel (feed.stream.callSsl ssl)
    some ⟨flushed, feed.fed, feed.handed ++ feed.stream.bio.handed ssl.calls⟩

namespace MemBio

theorem waiting_feedIncoming (bio : MemBio) (data : List UInt8) :
    (bio.feedIncoming data).waiting = bio.waiting ++ data := rfl

theorem waiting_readIncoming (bio : MemBio) (len : Nat) :
    bio.waiting.take (min bio.incomingAvailable len) ++ (bio.readIncoming len).waiting =
      bio.waiting := by
  simp only [waiting, readIncoming, ← List.drop_drop, List.take_append_drop]

theorem handed_append_waiting (bio : MemBio) (calls : List BioCall) :
    bio.handed calls ++ (calls.foldl callback bio).waiting = bio.waiting := by
  induction calls generalizing bio with
  | nil => rfl
  | cons call calls ih =>
    cases call with
    | send record => exact ih _
    | recv len =>
      rw [handed, List.foldl_cons, List.append_assoc, ih]
      exact waiting_readIncoming bio len

end MemBio

variable {reads : Nat → InnerRead}

theorem waiting_readLoop {fuel : Nat} {bio after : MemBio} {last : InnerRead} {fed : List UInt8}
    (read : readLoop fuel reads bio = some (last, fed, after)) :
    after.waiting = bio.waiting ++ fed ∧ after.outgoing = bio.outgoing := by
  induction fuel generalizing reads bio fed with
  | zero => cases read
  | succ fuel ih =>
    rw [readLoop] at read
    split at read
    · obtain ⟨⟨last, fed, after⟩, rest, same⟩ := Option.bind_eq_some_iff.1 read
      cases same
      obtain ⟨waiting, outgoing⟩ := ih rest
      rw [waiting, MemBio.waiting_feedIncoming, List.append_assoc]
      exact ⟨rfl, outgoing⟩
    · cases read
      exact ⟨(List.append_nil _).symm, rfl⟩

namespace Transport

variable {transport : Transport} {fuel : Nat} {stream : TlsStream} {ssl : SslCall}

theorem waiting_checkWriteFlush {flush : Flush} {after : TlsStream}
    (flushed : transport.checkWriteFlush fuel stream = some (flush, after)) :
    after.bio.waiting = stream.bio.waiting := by
  obtain ⟨⟨flush, taken, left⟩, _, same⟩ := Option.bind_eq_some_iff.1 flushed
  cases same
  rfl

theorem waiting_callFlush {flush : Flush} {after : TlsStream}
    (flushed : transport.checkWriteFlush fuel (stream.callSsl ssl) = some (flush, after)) :
    stream.bio.handed ssl.calls ++ after.bio.waiting = stream.bio.waiting := by
  rw [waiting_checkWriteFlush flushed]
  exact MemBio.handed_append_waiting stream.bio ssl.calls

/-- A call of `poll_read` by the answer that ends its first loop and by its flush. -/
theorem pollRead_eq_some_iff {polled : Polled} : transport.pollRead fuel stream ssl = some polled ↔
      ∃ last fed bio, readLoop fuel transport.reads stream.bio = some (last, fed, bio) ∧
        ((∃ error, last = .failed error ∧
            polled = ⟨.ready (.error (.inner error)), last, fed, [], { stream with bio := bio }⟩) ∨
          (∀ error, last ≠ .failed error) ∧ ∃ flush flushed, transport.checkWriteFlush fuel
                (TlsStream.callSsl { stream with bio := bio } ssl) = some (flush, flushed) ∧
              polled = ⟨match flush with
                  | .failed error => .ready (.error (.inner error))
                  | _ => readResult ssl.ret, last, fed, bio.handed ssl.calls, flushed⟩) := by
  rw [pollRead]
  constructor
  · intro ran
    obtain ⟨⟨last, fed, bio⟩, read, ran⟩ := Option.bind_eq_some_iff.1 ran
    refine ⟨last, fed, bio, read, ?_⟩
    dsimp only at ran
    split at ran
    case h_1 _ error =>
      cases ran
      exact .inl ⟨error, rfl, rfl⟩
    case h_2 unfailed =>
      obtain ⟨⟨flush, flushed⟩, wrote, ran⟩ := Option.bind_eq_some_iff.1 ran
      refine .inr ⟨unfailed, flush, flushed, wrote, ?_⟩
      cases flush <;> cases ran <;> rfl
  · rintro ⟨last, fed, bio, read, ⟨error, rfl, rfl⟩ | ⟨unfailed, flush, flushed, wrote, rfl⟩⟩
    · rw [read]
      rfl
    · rw [read]
      dsimp only [Option.bind_eq_bind, Option.bind_some]
      split
      · exact absurd rfl (unfailed _)
      · rw [wrote]
        cases flush <;> rfl

theorem handed_append_waiting_of_pollRead {polled : Polled}
    (ran : transport.pollRead fuel stream ssl = some polled) :
    polled.handed ++ polled.stream.bio.waiting = stream.bio.waiting ++ polled.fed := by
  obtain ⟨last, fed, bio, read, ⟨error, rfl, rfl⟩ | ⟨_, flush, flushed, wrote, rfl⟩⟩ :=
    pollRead_eq_some_iff.1 ran
  · exact (waiting_readLoop read).1
  · rw [← (waiting_readLoop read).1]
    exact waiting_callFlush wrote

end Transport

theorem Feed.handed_append_waiting_of_run {stream : TlsStream} {events : List FeedEvent}
    {feed : Feed}
    (run : Run (fun feed event next => Feed.step feed event = some next) ⟨stream, [], []⟩ events
      feed) : feed.handed ++ feed.stream.bio.waiting = stream.bio.waiting ++ feed.fed := by
  apply run.keeps fun _ feed =>
    feed.handed ++ feed.stream.bio.waiting = stream.bio.waiting ++ feed.fed
  · exact (List.append_nil _).symm
  · intro events event feed next ordered taken
    cases event with
    | pollRead transport fuel ssl =>
      obtain ⟨polled, ran, same⟩ := Option.bind_eq_some_iff.1 taken
      cases same
      rw [List.append_assoc, Transport.handed_append_waiting_of_pollRead ran,
        ← List.append_assoc, ordered, List.append_assoc]
    | callFlush transport fuel ssl =>
      obtain ⟨⟨flush, flushed⟩, ran, same⟩ := Option.bind_eq_some_iff.1 taken
      cases same
      rw [List.append_assoc, Transport.waiting_callFlush ran, ordered]

/-- The reads give data up to the one with this number, which does not. -/
def StopsAt (reads : Nat → InnerRead) (last : Nat) : Prop :=
  (∀ n < last, (reads n).isData = true) ∧ (reads last).isData = false

def accepted : (Nat → InnerWrite) → Nat → Nat
  | _, 0 => 0
  | writes, n + 1 => (writes 0).count + accepted (fun n => writes (n + 1)) n

/-- The writes get through so many bytes, or one of them blocks or fails. -/
def FlushEnds (writes : Nat → InnerWrite) (length : Nat) : Prop :=
  ∃ n, length ≤ accepted writes n ∨ (writes n).isReady = false

def FlushFails (writes : Nat → InnerWrite) (length : Nat) : Prop :=
  ∃ n, (∀ before < n, (writes before).isReady = true) ∧ accepted writes n < length ∧
    ∃ error, writes n = .failed error

theorem StopsAt.unique {last other : Nat} (stops : StopsAt reads last)
    (also : StopsAt reads other) : last = other := by
  apply Nat.le_antisymm
  · apply Nat.le_of_not_lt
    intro before
    have data := stops.1 other before
    rw [also.2] at data
    cases data
  · apply Nat.le_of_not_lt
    intro before
    have data := also.1 last before
    rw [stops.2] at data
    cases data

theorem StopsAt.of_tail {last : Nat} (first : (reads 0).isData = true)
    (stops : StopsAt (fun n => reads (n + 1)) last) : StopsAt reads (last + 1) := by
  refine ⟨?_, stops.2⟩
  intro n inside
  cases n with
  | zero => exact first
  | succ n => exact stops.1 n (by omega)

theorem StopsAt.tail {last : Nat} (stops : StopsAt reads (last + 1)) :
    StopsAt (fun n => reads (n + 1)) last :=
  ⟨fun n inside => stops.1 (n + 1) (by omega), stops.2⟩

theorem stopsAt_of_readLoop {fuel : Nat} {bio after : MemBio} {last : InnerRead} {fed : List UInt8}
    (read : readLoop fuel reads bio = some (last, fed, after)) :
    ∃ n, StopsAt reads n ∧ last = reads n := by
  induction fuel generalizing reads bio fed with
  | zero => cases read
  | succ fuel ih =>
    rw [readLoop] at read
    split at read
    case h_1 byte data first =>
      obtain ⟨⟨last, fed, after⟩, rest, same⟩ := Option.bind_eq_some_iff.1 read
      cases same
      obtain ⟨n, stops, same⟩ := ih rest
      exact ⟨n + 1, stops.of_tail (by rw [first]; rfl), same⟩
    case h_2 noData =>
      cases read
      refine ⟨0, ⟨fun n before => absurd before n.not_lt_zero, ?_⟩, rfl⟩
      match first : reads 0 with
      | .ready [] => rfl
      | .ready (byte :: data) => exact absurd first (noData byte data)
      | .failed _ => rfl
      | .pending => rfl

theorem readLoop_of_stopsAt {fuel last : Nat} {reads : Nat → InnerRead} {bio : MemBio}
    (stops : StopsAt reads last) (enough : last < fuel) :
    ∃ fed after, readLoop fuel reads bio = some (reads last, fed, after) := by
  induction last generalizing fuel reads bio with
  | zero =>
    obtain ⟨fuel, rfl⟩ := Nat.exists_eq_add_of_lt enough
    refine ⟨[], bio, ?_⟩
    rw [readLoop]
    split
    case h_1 byte data first =>
      have noData := stops.2
      rw [first] at noData
      cases noData
    case h_2 => rfl
  | succ last ih =>
    cases fuel with
    | zero => cases enough
    | succ fuel =>
      rw [readLoop]
      split
      case h_1 byte data first =>
        obtain ⟨fed, after, rest⟩ :=
          @ih fuel _ (bio.feedIncoming (byte :: data)) stops.tail (by omega)
        rw [rest]
        exact ⟨byte :: data ++ fed, after, rfl⟩
      case h_2 noData =>
        have data := stops.1 0 (by omega)
        match first : reads 0 with
        | .ready [] => rw [first] at data; cases data
        | .ready (byte :: rest) => exact absurd first (noData byte rest)
        | .failed _ => rw [first] at data; cases data
        | .pending => rw [first] at data; cases data

variable {writes : Nat → InnerWrite}

theorem flushLoop_of_ends {fuel n : Nat} {data : List UInt8}
    (ends : data.length ≤ accepted writes n ∨ (writes n).isReady = false) (enough : n < fuel) :
    ∃ flushed, flushLoop fuel writes data = some flushed := by
  induction n generalizing fuel writes data with
  | zero =>
    obtain ⟨fuel, rfl⟩ := Nat.exists_eq_add_of_lt enough
    cases data with
    | nil => exact ⟨_, rfl⟩
    | cons byte data =>
      obtain none | blocked := ends
      · cases none
      · rw [flushLoop]
        split
        case h_1 count first =>
          rw [first] at blocked
          cases blocked
        all_goals exact ⟨_, rfl⟩
  | succ n ih =>
    cases fuel with
    | zero => cases enough
    | succ fuel =>
      cases data with
      | nil => exact ⟨_, rfl⟩
      | cons byte data =>
        rw [flushLoop]
        split
        case h_1 count first =>
          rw [accepted, first, InnerWrite.count] at ends
          have rest : ((byte :: data).drop count).length ≤
                accepted (fun n => writes (n + 1)) n ∨
              (writes (n + 1)).isReady = false := by
            apply ends.imp_left
            rw [List.length_drop]
            omega
          obtain ⟨⟨flush, taken, left⟩, rest⟩ :=
            ih rest (Nat.lt_of_succ_lt_succ enough)
          rw [rest]
          exact ⟨_, rfl⟩
        all_goals exact ⟨_, rfl⟩

theorem flushEnds_of_flushLoop {fuel : Nat} {data : List UInt8}
    {flushed : Flush × List UInt8 × List UInt8}
    (ran : flushLoop fuel writes data = some flushed) : FlushEnds writes data.length := by
  induction fuel generalizing writes data flushed with
  | zero =>
    cases data with
    | nil => exact ⟨0, .inl (Nat.le_refl 0)⟩
    | cons byte data => cases ran
  | succ fuel ih =>
    cases data with
    | nil => exact ⟨0, .inl (Nat.le_refl 0)⟩
    | cons byte data =>
      rw [flushLoop] at ran
      split at ran
      case h_1 count first =>
        obtain ⟨rest, ended, _⟩ := Option.bind_eq_some_iff.1 ran
        obtain ⟨n, through | blocked⟩ := ih ended
        · refine ⟨n + 1, .inl ?_⟩
          rw [List.length_drop] at through
          rw [accepted, first, InnerWrite.count]
          omega
        · exact ⟨n + 1, .inr blocked⟩
      case h_2 error first => exact ⟨0, .inr (by rw [first]; rfl)⟩
      case h_3 first => exact ⟨0, .inr (by rw [first]; rfl)⟩

theorem not_flushFails_zero (writes : Nat → InnerWrite) : ¬FlushFails writes 0 := by
  rintro ⟨n, _, left, _⟩
  cases left

theorem flushFails_iff {fuel : Nat} {data taken left : List UInt8}
    {flush : Flush} (ran : flushLoop fuel writes data = some (flush, taken, left)) :
    (∃ error, flush = .failed error) ↔ FlushFails writes data.length := by
  induction fuel generalizing writes data taken with
  | zero =>
    cases data with
    | nil =>
      cases ran
      exact ⟨fun ⟨_, fails⟩ => (nomatch fails), fun fails => absurd fails (not_flushFails_zero _)⟩
    | cons byte data => cases ran
  | succ fuel ih =>
    cases data with
    | nil =>
      cases ran
      exact ⟨fun ⟨_, fails⟩ => (nomatch fails), fun fails => absurd fails (not_flushFails_zero _)⟩
    | cons byte data =>
      rw [flushLoop] at ran
      split at ran
      case h_1 count first =>
        obtain ⟨⟨flush, taken, left⟩, ended, same⟩ := Option.bind_eq_some_iff.1 ran
        cases same
        rw [ih ended, List.length_drop]
        constructor
        · rintro ⟨n, before, left, fails⟩
          refine ⟨n + 1, ?_, ?_, fails⟩
          · intro m earlier
            cases m with
            | zero => rw [first]; rfl
            | succ m => exact before m (by omega)
          · rw [accepted, first, InnerWrite.count]
            omega
        · rintro ⟨n, before, left, error, fails⟩
          cases n with
          | zero => cases first.symm.trans fails
          | succ n =>
            refine ⟨n, fun m earlier => before (m + 1) (by omega), ?_, error, fails⟩
            rw [accepted, first, InnerWrite.count] at left
            omega
      case h_2 error first =>
        cases ran
        exact ⟨fun _ => ⟨0, fun m earlier => absurd earlier m.not_lt_zero,
          Nat.succ_pos _, error, first⟩, fun _ => ⟨error, rfl⟩⟩
      case h_3 first =>
        cases ran
        constructor
        · rintro ⟨_, ⟨⟩⟩
        · rintro ⟨n, before, _, error, fails⟩
          cases n with
          | zero => cases first.symm.trans fails
          | succ n =>
            have ready := before 0 (by omega)
            rw [first] at ready
            cases ready

theorem Transport.readResult_eq_pending_iff (ret : Int) :
    readResult ret = .pending ↔ ret = errSslWantRead := by
  rw [readResult]
  constructor
  · intro pending
    split at pending
    · cases pending
    · split at pending
      · assumption
      · split at pending <;> cases pending
  · rintro rfl
    rfl

namespace Transport

/-- The read ends, it waits only where a waker is registered, and whatever calls follow, what
comes in reaches mbedtls completely, once and in order. -/
structure NeverStalls (transport : Transport) (stream : TlsStream) (ssl : SslCall) : Prop where
  ends : ∃ fuel polled, transport.pollRead fuel stream ssl = some polled
  registered : ∀ fuel polled, transport.pollRead fuel stream ssl = some polled →
    polled.result = .pending → polled.lastRead = .pending
  inOrder : ∀ events feed,
    Run (fun feed event next => Feed.step feed event = some next) ⟨stream, [], []⟩ events feed →
    feed.handed ++ feed.stream.bio.waiting = stream.bio.waiting ++ feed.fed

def toFlush (stream : TlsStream) (ssl : SslCall) : Nat :=
  (stream.bio.outgoing ++ ssl.ciphertext).length

/-- The transport stops giving data, and the flush ends; where it is closed, mbedtls does not
ask for more, or the flush fails. -/
def LetsReadEnd (transport : Transport) (stream : TlsStream) (ssl : SslCall) : Prop :=
  ∃ last, StopsAt transport.reads last ∧ ((∃ error, transport.reads last = .failed error) ∨
      FlushEnds transport.writes (toFlush stream ssl) ∧ (transport.reads last = .ready [] →
          ssl.ret ≠ errSslWantRead ∨ FlushFails transport.writes (toFlush stream ssl)))

variable {transport : Transport} {stream : TlsStream} {ssl : SslCall}

theorem outgoing_callSsl {fuel : Nat} {reads : Nat → InnerRead} {last : InnerRead}
    {fed : List UInt8} {bio : MemBio}
    (read : readLoop fuel reads stream.bio = some (last, fed, bio)) :
    (TlsStream.callSsl { stream with bio := bio } ssl).bio.outgoing.length =
      toFlush stream ssl := by
  rw [TlsStream.callSsl, MemBio.outgoing_run, (waiting_readLoop read).2, toFlush]

theorem flushEnds_of_checkWriteFlush {fuel : Nat} {flush : Flush} {after : TlsStream}
    (flushed : transport.checkWriteFlush fuel stream = some (flush, after)) :
    FlushEnds transport.writes stream.bio.outgoing.length ∧ ((∃ error, flush = .failed error) ↔
        FlushFails transport.writes stream.bio.outgoing.length) := by
  obtain ⟨⟨flush, taken, left⟩, ran, same⟩ := Option.bind_eq_some_iff.1 flushed
  cases same
  exact ⟨flushEnds_of_flushLoop ran, flushFails_iff ran⟩

theorem letsReadEnd_of_neverStalls (never : transport.NeverStalls stream ssl) :
    transport.LetsReadEnd stream ssl := by
  obtain ⟨fuel, polled, ran⟩ := never.ends
  obtain ⟨last, fed, bio, read, cause⟩ := pollRead_eq_some_iff.1 ran
  obtain ⟨n, stops, same⟩ := stopsAt_of_readLoop read
  refine ⟨n, stops, ?_⟩
  obtain ⟨error, failed, _⟩ | ⟨_, flush, flushed, wrote, outcome⟩ := cause
  · exact .inl ⟨error, same ▸ failed⟩
  · obtain ⟨ends, fails⟩ := flushEnds_of_checkWriteFlush wrote
    rw [outgoing_callSsl read] at ends fails
    refine .inr ⟨ends, ?_⟩
    intro closed
    by_contra asks
    obtain ⟨wants, unfailed⟩ := not_or.1 asks
    have pending : polled.result = .pending := by
      rw [outcome]
      dsimp only
      split
      · exact absurd (fails.1 ⟨_, rfl⟩) unfailed
      · exact (readResult_eq_pending_iff _).2 (not_not.1 wants)
    have registered := never.registered fuel polled ran pending
    rw [outcome] at registered
    dsimp only at registered
    rw [same, closed] at registered
    cases registered

theorem ends_of_letsReadEnd (lets : transport.LetsReadEnd stream ssl) :
    ∃ fuel polled, transport.pollRead fuel stream ssl = some polled := by
  obtain ⟨last, stops, ⟨error, failed⟩ | ⟨⟨n, ends⟩, _⟩⟩ := lets
  · obtain ⟨fed, bio, read⟩ := @readLoop_of_stopsAt _ _ _ stream.bio stops (Nat.lt_succ_self last)
    exact ⟨_, _, pollRead_eq_some_iff.2 ⟨_, fed, bio, read, .inl ⟨error, failed, rfl⟩⟩⟩
  · obtain ⟨fed, bio, read⟩ :=
      @readLoop_of_stopsAt (max last n + 1) _ _ stream.bio stops (by omega)
    rw [← outgoing_callSsl read] at ends
    obtain ⟨⟨flush, taken, left⟩, flushed⟩ :=
      flushLoop_of_ends ends (show n < max last n + 1 by omega)
    have wrote : ∃ after, transport.checkWriteFlush (max last n + 1)
        (TlsStream.callSsl { stream with bio := bio } ssl) = some (flush, after) := by
      rw [checkWriteFlush, flushed]
      exact ⟨_, rfl⟩
    obtain ⟨after, wrote⟩ := wrote
    refine ⟨max last n + 1, ?_⟩
    by_cases failed : ∃ error, transport.reads last = .failed error
    · obtain ⟨error, failed⟩ := failed
      exact ⟨_, pollRead_eq_some_iff.2 ⟨_, fed, bio, read, .inl ⟨error, failed, rfl⟩⟩⟩
    · exact ⟨_, pollRead_eq_some_iff.2 ⟨_, fed, bio, read,
        .inr ⟨not_exists.1 failed, flush, after, wrote, rfl⟩⟩⟩

theorem registered_of_letsReadEnd (lets : transport.LetsReadEnd stream ssl) {fuel : Nat}
    {polled : Polled} (ran : transport.pollRead fuel stream ssl = some polled)
    (pending : polled.result = .pending) : polled.lastRead = .pending := by
  obtain ⟨last, fed, bio, read, ⟨error, _, rfl⟩ | ⟨unfailed, flush, flushed, wrote, rfl⟩⟩ :=
    pollRead_eq_some_iff.1 ran
  · cases pending
  · obtain ⟨n, stops, same⟩ := stopsAt_of_readLoop read
    obtain ⟨other, also, cause⟩ := lets
    cases also.unique stops
    cases answer : transport.reads n with
    | pending => exact same.trans answer
    | failed error => exact absurd (same.trans answer) (unfailed error)
    | ready data =>
      have noData := stops.2
      rw [answer] at noData
      simp only [InnerRead.isData, Bool.not_eq_false', List.isEmpty_iff] at noData
      subst noData
      obtain ⟨error, failed⟩ | ⟨_, closed⟩ := cause
      · exact absurd (same.trans failed) (unfailed error)
      · have fails := (flushEnds_of_checkWriteFlush wrote).2
        rw [outgoing_callSsl read] at fails
        dsimp only at pending
        split at pending
        case h_1 => cases pending
        case h_2 unbroken =>
          obtain asks | broken := closed answer
          · exact absurd ((readResult_eq_pending_iff _).1 pending) asks
          · obtain ⟨error, broken⟩ := fails.2 broken
            exact absurd broken (unbroken error)

/-- Reads never stall exactly where the transport lets them end. -/
theorem neverStalls_iff (transport : Transport) (stream : TlsStream) (ssl : SslCall) :
    transport.NeverStalls stream ssl ↔ transport.LetsReadEnd stream ssl := by
  constructor
  · exact letsReadEnd_of_neverStalls
  · intro lets
    exact ⟨ends_of_letsReadEnd lets, fun _ _ => registered_of_letsReadEnd lets,
      fun _ _ => Feed.handed_append_waiting_of_run⟩

end Transport

def closedTransport : Transport := ⟨fun _ => .ready [], fun _ => .pending⟩

def asksForRecord : SslCall := ⟨errSslWantRead, [.recv 5]⟩

/-- A record that does not come is waited for without a waker. -/
theorem closedTransport_stalls : closedTransport.pollRead 1 .new asksForRecord =
        some ⟨.pending, .ready [], [], [], .new⟩ ∧
      ¬closedTransport.NeverStalls .new asksForRecord := by
  refine ⟨by decide, ?_⟩
  intro never
  cases never.registered 1 ⟨.pending, .ready [], [], [], .new⟩ (by decide) rfl

end DiagnosticAdapter.Tls
