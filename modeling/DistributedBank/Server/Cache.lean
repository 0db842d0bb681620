/-
# DistributedBank.Server.Cache — every reply answers the request it is sent for

A pass answers a request with the reply it builds, `encode (replyOf req d)`, which copies the
request's id into its header, or, for an at-most-once request whose key is cached, with the
bytes cached under that key.  The cache is written in one place: `executeWith` stores the
reply it built under the key of the request's sender and id.  Two keys are equal only for
equal ids (the key splits back into its decimal fields), so every entry under the key of
peer `p` and id `i` holds the encoded reply to a request carrying `i` (`CachedReplies`), in
every state of every run, whatever the dispatch.

Hence every reply datagram a pass sends, built or replayed, goes to the sender of the request
the pass received and encodes a reply carrying that request's id.  Both servers' dispatches
answer with bodies of at most 31 bytes, so the datagram fits the client's buffer, decodes, and
passes the filters of the `Client::call` waiting on that id (`replies_reach_call`).

Where a replayed reply comes from: every entry in the cache after a run was stored by a pass
of the run, with the bytes that pass built and sent, and expires 60 s after that pass cached it
(`run_dedup_provenance`).  So a reply is either built by its own pass, or the reply an earlier
pass built for a request under the same key, less than 60 s before the replaying pass's sweep
(`replies_fresh_or_replayed`).

* `requestId_eq_of_dedupKey_eq`: equal keys, equal ids;
* `executeWith_cachedReplies`, `stepWith_cachedReplies`, `runWith_cachedReplies`: the cache
  invariant for one execution, one pass and a whole run;
* `stepWith_reply`: what a reply datagram of a pass is;
* `step_dedup_eq_some`, `run_dedup_provenance`: the provenance of a cache entry.
-/
import DistributedBank.Server.Basic
import DistributedBank.Server.Ledger
import DistributedBank.Client.Replies

namespace DistributedBank

set_option autoImplicit false

/-- Two dedup keys are equal only for equal request ids. -/
theorem requestId_eq_of_dedupKey_eq {a a' : SockAddr} {i i' : UInt64}
    (h : dedupKey a i = dedupKey a' i') : i = i' := by
  rw [dedupKey_eq, dedupKey_eq] at h
  obtain ⟨-, h⟩ := decimal_append_cons_inj (by decide) h
  obtain ⟨-, h⟩ := decimal_append_cons_inj (by decide) h
  obtain ⟨-, h⟩ := decimal_append_cons_inj (by decide) h
  obtain ⟨-, h⟩ := decimal_append_cons_inj (by decide) h
  obtain ⟨-, h⟩ := decimal_append_cons_inj (by decide) h
  exact UInt64.toNat.inj (decimal_injective h)

/-- The bytes `r` encode the reply, with a body of at most 31 bytes, to a request carrying
the id `i`. -/
def RepliesTo (r : Bytes) (i : UInt64) : Prop :=
  ∃ req d, req.h.requestId = i ∧ d.body.length ≤ 31 ∧ r = encode (replyOf req d)

/-- Every entry of the cache under the key of peer `p` and id `i` replies to `i`. -/
def CachedReplies (dedup : Bytes → Option DedupEntry) : Prop :=
  ∀ p i e, dedup (dedupKey p i) = some e → RepliesTo e.replyBytes i

section Dispatch

variable (d : Dispatcher)
  (hd : ∀ bank monitors peer now req, (d bank monitors peer now req).body.length ≤ 31)

include hd

theorem executeWith_cachedReplies {s : Server} (hs : CachedReplies s.dedup) (τ : Tick)
    (peer : SockAddr) (req : Message) (flag : Bool) :
    CachedReplies (executeWith d s τ peer req flag).1.dedup := by
  intro p i e he
  cases flag
  · exact hs p i e he
  simp only [executeWith, if_true] at he
  by_cases hk : dedupKey p i = dedupKey peer req.h.requestId
  · rw [hk, Function.update_same] at he
    obtain rfl := Option.some.inj he
    exact ⟨req, _, (requestId_eq_of_dedupKey_eq hk).symm, hd .., rfl⟩
  · rw [Function.update_noteq hk] at he
    exact hs p i e he

theorem stepWith_cachedReplies {s : Server} (hs : CachedReplies s.dedup) (τ : Tick) :
    CachedReplies (stepWith d s τ).1.dedup := by
  have hsw : CachedReplies (sweep τ.sweepAt s).dedup :=
    fun p i e he => hs p i e (sweep_dedup_eq_some.1 he).1
  rw [stepWith]
  rcases serveWith_cases d (sweep τ.sweepAt s) τ with ⟨-, h⟩ | ⟨_, _, -, -, -, -, h⟩ |
      ⟨_, -, -, -, -, -, h⟩ <;> rw [h]
  exacts [hsw, hsw, executeWith_cachedReplies d hd hsw _ _ _ _]

theorem runWith_cachedReplies :
    ∀ (s : Server) (ts : List Tick), CachedReplies s.dedup → CachedReplies (runWith d s ts).dedup
  | _, [], hs => hs
  | s, τ :: ts, hs => runWith_cachedReplies (stepWith d s τ).1 ts (stepWith_cachedReplies d hd hs τ)

/-- A reply datagram of a pass goes to the sender of the request the pass received, and replies
to that request's id: the reply the pass built, or the one cached under the request's key. -/
theorem stepWith_reply {s : Server} (hs : CachedReplies s.dedup) (τ : Tick) :
    ∀ r ∈ (stepWith d s τ).2.reply, ∃ a, τ.recv = some a ∧ IsRequest a.bytes ∧ r.peer = a.peer ∧
      RepliesTo r.bytes (decoded a.bytes).h.requestId := by
  intro r hr
  rw [stepWith] at hr
  rcases serveWith_cases d (sweep τ.sweepAt s) τ with ⟨-, h⟩ | ⟨a, e, ha, hreq, -, he, h⟩ |
      ⟨a, ha, -, -, hreq, -, h⟩ <;> rw [h] at hr
  · cases hr
  · obtain rfl := mem_replyTo hr
    exact ⟨a, ha, hreq, rfl, hs _ _ e (sweep_dedup_eq_some.1 he).1⟩
  · obtain rfl := mem_replyTo hr
    exact ⟨a, ha, hreq, rfl, _, _, rfl, hd .., rfl⟩

/-- Every reply datagram a pass of a run sends reaches the `Client::call` waiting on the id of
the request the pass received. -/
theorem runWith_replies_reach_call (pre : List Tick) (τ : Tick) (reply : Message) :
    ∀ r ∈ (stepWith d (runWith d Server.init pre) τ).2.reply, ∃ a, τ.recv = some a ∧
      IsRequest a.bytes ∧ r.peer = a.peer ∧ ∃ m,
        Client.receive (decoded a.bytes).h.requestId reply (.datagram r.bytes) = (true, m) ∧
        m.h.requestId = (decoded a.bytes).h.requestId ∧ m.h.msgType = MsgType.Reply.val := by
  intro r hr
  have hs := runWith_cachedReplies d hd Server.init pre fun _ _ _ h => nomatch h
  obtain ⟨a, ha, hreq, hpeer, req, dd, hid, hlen, hbytes⟩ := stepWith_reply d hd hs τ r hr
  refine ⟨a, ha, hreq, hpeer, replyOf req dd, ?_, hid, rfl⟩
  rw [hbytes, ← hid]
  exact Client.receive_replyOf req dd (hlen.trans (by decide)) reply

end Dispatch

/-! ## The two servers -/

theorem Atomic.body_length_le {bank : Bank} {monitors : List MonitorEntry} {op : UInt16}
    {d : Handled} (h : Atomic bank monitors op d) : d.body.length ≤ 31 := by
  rcases h with ⟨hok, -, o, -, hf⟩ | ⟨-, hnil, -⟩
  · exact (Client.readReply_of_resultFields (show (replyOf default d).h.status = _ from hok) hf).1
  · rw [hnil]; exact Nat.zero_le _

/-- For both servers, in every state a run reaches, every reply datagram a pass sends, built
now or replayed from the dedup cache, goes to the sender of the request the pass received, and
the `Client::call` waiting on that request's id accepts it: the datagram fits the buffer,
decodes, and is a Reply carrying that id. -/
theorem replies_reach_call :
    (∀ pre τ reply, ∀ r ∈ (step (run Server.init pre) τ).2.reply, ∃ a, τ.recv = some a ∧
      IsRequest a.bytes ∧ r.peer = a.peer ∧ ∃ m,
        Client.receive (decoded a.bytes).h.requestId reply (.datagram r.bytes) = (true, m) ∧
        m.h.requestId = (decoded a.bytes).h.requestId ∧ m.h.msgType = MsgType.Reply.val) ∧
    (∀ pre τ reply, ∀ r ∈ (Basic.step (Basic.run Server.init pre) τ).2.reply, ∃ a, τ.recv = some a ∧
      IsRequest a.bytes ∧ r.peer = a.peer ∧ ∃ m,
        Client.receive (decoded a.bytes).h.requestId reply (.datagram r.bytes) = (true, m) ∧
        m.h.requestId = (decoded a.bytes).h.requestId ∧ m.h.msgType = MsgType.Reply.val) :=
  ⟨runWith_replies_reach_call dispatch fun bank monitors peer now req =>
      (dispatch_handled_atomic bank monitors peer now req).body_length_le,
    runWith_replies_reach_call Basic.dispatch fun bank monitors peer now req =>
      (Basic.dispatch_handled_atomic bank monitors peer now req).body_length_le⟩

/-! ## Where a replayed reply comes from -/

/-- The reply bytes a pass from state `s` builds for the request `req` from `peer`: the dispatch
over the bank and the subscriptions its sweep kept. -/
def builtReply (s : Server) (τ : Tick) (peer : SockAddr) (req : Message) : Bytes :=
  encode (replyOf req (dispatch s.bank (s.monitors.filter fun m => alive τ.sweepAt m.expireAt)
    peer τ.registeredAt req))

/-- The pass `τ` from state `s` executed an at-most-once request under the dedup key `k`,
handed the bytes `R` it built to the reply `sendto` (unless the loss draw dropped them), and
cached them for 60 s. -/
def Caches (s : Server) (τ : Tick) (k R : Bytes) : Prop :=
  ∃ a, τ.recv = some a ∧ IsRequest a.bytes ∧ atMostOnce (decoded a.bytes) = true ∧
    k = dedupKey a.peer (decoded a.bytes).h.requestId ∧ R = builtReply s τ a.peer (decoded a.bytes) ∧
    (step s τ).2.reply = replyTo τ a.peer R ∧ (step s τ).1.dedup k = some ⟨R, τ.cachedAt + seconds 60⟩

/-- A dedup entry after a pass was there before it, or the pass stored it. -/
theorem step_dedup_eq_some {s : Server} {τ : Tick} {k : Bytes} {e : DedupEntry}
    (h : (step s τ).1.dedup k = some e) :
    s.dedup k = some e ∨ Caches s τ k e.replyBytes ∧ e.expireAt = τ.cachedAt + seconds 60 := by
  rcases serve_cases (sweep τ.sweepAt s) τ with ⟨-, hs⟩ | ⟨_, _, -, -, -, -, hs⟩ |
      ⟨a, ha, -, -, hreq, -, hs⟩
  · rw [step_eq_serve, hs] at h; exact .inl (sweep_dedup_eq_some.1 h).1
  · rw [step_eq_serve, hs] at h; exact .inl (sweep_dedup_eq_some.1 h).1
  have hexec : step s τ = execute (sweep τ.sweepAt s) τ a.peer (decoded a.bytes)
      (atMostOnce (decoded a.bytes)) := by rw [step_eq_serve, hs]
  cases hflag : atMostOnce (decoded a.bytes)
  · rw [hexec, hflag] at h; exact .inl (sweep_dedup_eq_some.1 h).1
  rw [hflag] at hexec
  obtain ⟨hstore, hreply⟩ := execute_stores (sweep τ.sweepAt s) τ a.peer (decoded a.bytes)
  by_cases hk : k = dedupKey a.peer (decoded a.bytes).h.requestId
  · rw [hexec, hk, hstore] at h
    obtain rfl := Option.some.inj h
    exact .inr ⟨⟨a, ha, hreq, hflag, hk, rfl, by rw [hexec, hreply], by rw [hexec, hk, hstore]⟩, rfl⟩
  · rw [hexec] at h
    simp only [execute, executeWith, if_true, Function.update_noteq hk] at h
    exact .inl (sweep_dedup_eq_some.1 h).1

/-- Every dedup entry in the state after a run was stored by a pass of the run, which built
and sent the entry's bytes. -/
theorem run_dedup_provenance (ts : List Tick) {k : Bytes} {e : DedupEntry}
    (h : (run Server.init ts).dedup k = some e) :
    ∃ pre τ post, ts = pre ++ τ :: post ∧ Caches (run Server.init pre) τ k e.replyBytes ∧
      e.expireAt = τ.cachedAt + seconds 60 := by
  induction ts using List.reverseRecOn with
  | nil => cases h
  | append_singleton ts τ ih =>
    rw [run_append] at h
    rcases step_dedup_eq_some (s := run Server.init ts) h with h | ⟨hc, he⟩
    · obtain ⟨pre, τ', post, rfl, hc, he⟩ := ih h
      exact ⟨pre, τ', post ++ [τ], by simp, hc, he⟩
    · exact ⟨ts, τ, [], rfl, hc, he⟩

/-- Every reply datagram a pass of a run sends goes to the sender of the request the pass
received, and is either the reply the pass built from its dispatch of that request, or, for an
at-most-once request, the bytes an earlier pass of the run built, cached and sent for a request
under the same dedup key, less than 60 s before this pass's sweep. -/
theorem replies_fresh_or_replayed (pre : List Tick) (τ : Tick) :
    ∀ r ∈ (step (run Server.init pre) τ).2.reply, ∃ a, τ.recv = some a ∧ IsRequest a.bytes ∧
      r.peer = a.peer ∧
      (r.bytes = builtReply (run Server.init pre) τ a.peer (decoded a.bytes) ∨
        atMostOnce (decoded a.bytes) = true ∧ ∃ pre' τ' post', pre = pre' ++ τ' :: post' ∧
          Caches (run Server.init pre') τ' (dedupKey a.peer (decoded a.bytes).h.requestId) r.bytes ∧
          τ.sweepAt < τ'.cachedAt + seconds 60) := by
  intro r hr
  rw [step_eq_serve] at hr
  rcases serve_cases (sweep τ.sweepAt (run Server.init pre)) τ with ⟨-, hs⟩ |
      ⟨a, e, ha, hreq, hflag, he, hs⟩ | ⟨a, ha, -, -, hreq, -, hs⟩ <;> rw [hs] at hr
  · cases hr
  · obtain rfl := mem_replyTo hr
    obtain ⟨he, ht⟩ := sweep_dedup_eq_some.1 he
    obtain ⟨pre', τ', post', hpre, hc, hexp⟩ := run_dedup_provenance pre he
    exact ⟨a, ha, hreq, rfl, .inr ⟨hflag, pre', τ', post', hpre, hc, hexp ▸ ht⟩⟩
  · obtain rfl := mem_replyTo hr
    exact ⟨a, ha, hreq, rfl, .inl rfl⟩

/-- A duplicate of request 7 from `peerB` one nanosecond after the first copy: its reply is the
cached one. -/
theorem replies_fresh_or_replayed_duplicate :
    ∃ r ∈ (step (run Server.init [unknownOpPass 0]) (unknownOpPass 1)).2.reply, ∃ a,
      (unknownOpPass 1).recv = some a ∧ IsRequest a.bytes ∧ r.peer = a.peer ∧
      (r.bytes = builtReply (run Server.init [unknownOpPass 0]) (unknownOpPass 1) a.peer (decoded a.bytes) ∨
        atMostOnce (decoded a.bytes) = true ∧ ∃ pre' τ' post', [unknownOpPass 0] = pre' ++ τ' :: post' ∧
          Caches (run Server.init pre') τ' (dedupKey a.peer (decoded a.bytes).h.requestId) r.bytes ∧
          (unknownOpPass 1).sweepAt < τ'.cachedAt + seconds 60) :=
  have hs : ((step (run Server.init [unknownOpPass 0]) (unknownOpPass 1)).2.reply).isSome := by decide
  ⟨_, Option.get_mem hs, replies_fresh_or_replayed _ _ _ (Option.get_mem hs)⟩

end DistributedBank
