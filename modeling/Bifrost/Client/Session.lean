import Bifrost.Client.Block
import Bifrost.Client.Account

/-!
# The client over a session

`new` builds a client, and every query afterwards may change it: `getBlockByHash`,
`getBlockByNumber` and `getAccountInfo` through their runtime check, `getGenesisHash` by
caching the genesis hash, and `setPrefix` by replacing the address prefix. The node may
answer differently from one call to the next (a runtime upgrade, a request that fails), so
each query is a `step` under a node of its own, and `Reachable` collects the clients that
some run leaves.

* `step_cases`: a query leaves the client as it was, as its runtime check left it, with a
  new prefix, or with a genesis hash cached.
* `Steps.genesisHash_eq`: along any run, a cached genesis hash is never replaced, and the
  url never changes; so `getGenesisHash_stable`: once fetched, the genesis hash is what
  every later call returns.
* `run_conn`: the client only ever connects to its own url, by the runtime check's
  reconnection at a query whose runtime request failed with
  `tls: use of closed connection`.
* `run_prefixBytes`: only `setPrefix` changes the address prefix; `run_meta_of_version`:
  while the nodes report the stored spec version, the metadata is never refetched, so a
  nil pointer left by a failed fetch stays; `run_identity`: the transaction version and
  the chain name always come from one runtime report; `run_settled`: once a check has
  returned nil, nodes that keep reporting that runtime never make the client reconnect or
  fetch the metadata again; `getBlockByHash_repeat`: so a block fetched again after block
  and account queries gives the same report.
* `new_ok_inv`: a new client holds the identity of one runtime report and the prefix of
  its chain; `Reachable.genesisHex`: every reachable client caches either nothing or a
  genesis hash in the hex `hash.Hex()` writes.
* `getBlockByHash_mixed_chain_identity`: a run in which a runtime upgrade's metadata fetch
  fails reaches a client that holds the old spec version, the new transaction version and
  no metadata.
-/

namespace Bifrost

namespace Client

variable {Conn Md : Type} (codec : Codec Md) (node : Node Conn Md)

/-! ## Building a client, its genesis hash and its prefix -/

/-- The client `new(Client)` gives, with its url and connection set. -/
def newClient (url : String) (conn : Conn) : Client Conn Md :=
  { c := conn, meta := none, prefixBytes := [], chainName := "", specVersion := 0
    transactionVersion := 0, genesisHash := "", url := url }

/-- `new`: a client of the node at `url`. `noPalletIndices` only sets an option of the
decoder package, which the model leaves out. -/
def new (url : String) (_noPalletIndices : Bool) : Except String (Client Conn Md) :=
  match codec.initBasicTypesByHexData with
  | .error err => .error ("init base type error: " ++ err)
  | .ok basicType =>
    match node.newSubstrateAPI url with
    | .error err => .error err
    | .ok conn =>
      match checkRuntimeVersion node (newClient url conn) with
      | (_, some err) => .error err
      | (c, none) =>
        .ok (if c.prefixBytes.length = 0 then
            { c with prefixBytes := basicType.getChainPrefix c.chainName }
          else c)

/-- `getGenesisHash`: the cached hash, or the hash of block 0 in hex, which is then
cached; the empty string when the node fails. -/
def getGenesisHash (c : Client Conn Md) : Client Conn Md × String :=
  if c.genesisHash ≠ "" then (c, c.genesisHash)
  else
    match node.getBlockHash c.c 0 with
    | .error _ => (c, "")
    | .ok hash =>
      ({ c with genesisHash := "0x" ++ Hex.encodeToString hash }, "0x" ++ Hex.encodeToString hash)

/-- `setPrefix`: a new address prefix. -/
def setPrefix (c : Client Conn Md) (prefixBytes : List UInt8) : Client Conn Md :=
  { c with prefixBytes }

/-! ## Sessions -/

/-- The client's queries. -/
inductive Op where
  | getBlockByHash (blockHash : String)
  | getBlockByNumber (height : Int)
  | getAccountInfo (address : String)
  | getGenesisHash
  | setPrefix (prefixBytes : List UInt8)

/-- The client a query leaves, under the node `node` of the moment. -/
def step (c : Client Conn Md) : Op → Client Conn Md
  | .getBlockByHash blockHash => (getBlockByHash codec node c blockHash).1
  | .getBlockByNumber height => (getBlockByNumber codec node c height).1
  | .getAccountInfo address => (getAccountInfo codec node c address).1
  | .getGenesisHash => (getGenesisHash node c).1
  | .setPrefix prefixBytes => setPrefix c prefixBytes

/-- The clients some run leaves: one `new` returned, then any queries, each under a node
of its own. -/
inductive Reachable : Client Conn Md → Prop
  | new {node : Node Conn Md} {url : String} {noPalletIndices : Bool} {c : Client Conn Md} :
      new codec node url noPalletIndices = .ok c → Reachable c
  | step {node : Node Conn Md} {c : Client Conn Md} (op : Op) :
      Reachable c → Reachable (step codec node c op)

/-- The clients a run of queries leads to from `c`, each query under a node of its own. -/
inductive Steps : Client Conn Md → Client Conn Md → Prop
  | refl (c : Client Conn Md) : Steps c c
  | step {node : Node Conn Md} {c c' : Client Conn Md} (op : Op) :
      Steps c c' → Steps c (step codec node c' op)

/-! ## What one query does to the client -/

/-- A query leaves the client as it was, or as its runtime check left it, or with the
prefix it sets, or with a genesis hash cached where none was. -/
theorem step_cases (c : Client Conn Md) (op : Op) :
    step codec node c op = c ∨ step codec node c op = (checkRuntimeVersion node c).1 ∨
      (∃ p, op = .setPrefix p ∧ step codec node c op = { c with prefixBytes := p }) ∨
      (c.genesisHash = "" ∧ ∃ g, step codec node c op = { c with genesisHash := g }) := by
  cases op with
  | getBlockByHash blockHash => exact .inr (.inl (getBlockByHash_fst codec node c blockHash))
  | getBlockByNumber height =>
    simp only [step, getBlockByNumber]
    split
    · exact .inl rfl
    · exact .inr (.inl (getBlockByHash_fst codec node c _))
  | getAccountInfo address => exact .inr (.inl (getAccountInfo_fst codec node c address))
  | getGenesisHash =>
    simp only [step, getGenesisHash]
    split_ifs with hg
    · exact .inl rfl
    · split
      · exact .inl rfl
      · exact .inr (.inr (.inr ⟨not_not.1 hg, _, rfl⟩))
  | setPrefix p => exact .inr (.inr (.inl ⟨p, rfl, rfl⟩))

/-- A query either keeps the transaction version and the chain name, or writes both from
one runtime report: the one the node gives over the connection the client then holds. -/
theorem step_identity (c : Client Conn Md) (op : Op) :
    ((step codec node c op).transactionVersion = c.transactionVersion ∧
        (step codec node c op).chainName = c.chainName) ∨
      ∃ v, node.getRuntimeVersionLatest (step codec node c op).c = .ok v ∧
        (step codec node c op).transactionVersion = v.transactionVersion.toNat ∧
        (step codec node c op).chainName = v.specName := by
  have hcheck : ((checkRuntimeVersion node c).1.transactionVersion = c.transactionVersion ∧
        (checkRuntimeVersion node c).1.chainName = c.chainName) ∨
      ∃ v, node.getRuntimeVersionLatest (checkRuntimeVersion node c).1.c = .ok v ∧
        (checkRuntimeVersion node c).1.transactionVersion = v.transactionVersion.toNat ∧
        (checkRuntimeVersion node c).1.chainName = v.specName := by
    rcases checkRuntimeVersion_cases node c with
      ⟨_, _, h⟩ | ⟨conn, v, hv, ⟨-, h⟩ | ⟨-, _, ⟨-, h⟩ | ⟨_, -, h⟩⟩⟩ <;> rw [h]
    · exact .inl ⟨rfl, rfl⟩
    all_goals exact .inr ⟨v, hv, rfl, rfl⟩
  rcases step_cases codec node c op with h | h | ⟨p, -, h⟩ | ⟨-, g, h⟩ <;> rw [h]
  · exact .inl ⟨rfl, rfl⟩
  · exact hcheck
  · exact .inl ⟨rfl, rfl⟩
  · exact .inl ⟨rfl, rfl⟩

/-- Once a genesis hash is cached, a query keeps it. -/
theorem step_frame {c : Client Conn Md} (op : Op) (hg : c.genesisHash ≠ "") :
    (step codec node c op).genesisHash = c.genesisHash := by
  have hgen := (checkRuntimeVersion_frame node c).2.2
  rcases step_cases codec node c op with h | h | ⟨p, -, h⟩ | ⟨h, -⟩ <;> rw [h]
  · exact hgen
  · exact absurd h hg

/-- A query keeps the url. It changes the connection only by the runtime check's
reconnection: after the node answered the runtime-version request on the client's
connection with an error that reports it closed, to the connection the node makes to the
client's url. -/
theorem step_conn (c : Client Conn Md) (op : Op) :
    (step codec node c op).url = c.url ∧
      ((step codec node c op).c = c.c ∨
        ∃ err, node.getRuntimeVersionLatest c.c = .error err ∧
          stringsContains err "tls: use of closed connection" = true ∧
          node.connect c.url = .ok (step codec node c op).c) := by
  obtain ⟨hurl, -, -⟩ := checkRuntimeVersion_frame node c
  rcases step_cases codec node c op with h | h | ⟨p, -, h⟩ | ⟨-, g, h⟩ <;> rw [h]
  · exact ⟨rfl, .inl rfl⟩
  · rw [checkRuntimeVersion_c]
    exact ⟨hurl, fetchRuntimeVersion_conn node c⟩
  · exact ⟨rfl, .inl rfl⟩
  · exact ⟨rfl, .inl rfl⟩

/-! ## Runs -/

/-- A property of clients that every query keeps, under any node, holds all along a run. -/
theorem Steps.inv {P : Client Conn Md → Prop}
    (hstep : ∀ (node : Node Conn Md) c op, P c → P (Client.step codec node c op))
    {c c' : Client Conn Md} (h : Steps codec c c') (hc : P c) : P c' := by
  induction h with
  | refl => exact hc
  | step op _ ih => exact hstep _ _ op (ih hc)

/-- Along any run, the url never changes, and a cached genesis hash is never replaced. -/
theorem Steps.genesisHash_eq {c c' : Client Conn Md} (h : Steps codec c c') :
    c'.url = c.url ∧ (c.genesisHash ≠ "" → c'.genesisHash = c.genesisHash) :=
  @Steps.inv _ _ codec (fun d => d.url = c.url ∧ (c.genesisHash ≠ "" → d.genesisHash = c.genesisHash))
    (fun node d op ⟨hurl, hgen⟩ =>
      ⟨(step_conn codec node d op).1.trans hurl, fun hg =>
        (step_frame codec node op ((hgen hg).symm ▸ hg)).trans (hgen hg)⟩) _ _ h
    ⟨rfl, fun _ => rfl⟩

/-- `Steps.genesisHash_eq` on a run of two queries, the first of which makes the client,
whose node reports its connection closed, reconnect, and the second asks for the genesis
hash it has cached. -/
theorem genesisHash_eq_sample :
    let codec := sampleCodec (fun _ => .panicked) [] sampleEvents
    let closed := { sampleNode sampleRuntime (some (), none) none .null with
      getRuntimeVersionLatest := fun _ => .error "tls: use of closed connection" }
    let c := { sampleClient with genesisHash := "0x02" }
    let c' := step codec (sampleNode sampleRuntime (some (), none) none .null)
      (step codec closed c (.getBlockByHash "0x02")) .getGenesisHash
    Steps codec c c' ∧ c'.url = c.url ∧ (c.genesisHash ≠ "" → c'.genesisHash = c.genesisHash) := by
  intro codec closed c c'
  have hsteps : Steps codec c c' := .step .getGenesisHash (.step (.getBlockByHash "0x02") (.refl _))
  exact ⟨hsteps, Steps.genesisHash_eq codec hsteps⟩

/-- `getGenesisHash` caches what it returns: the client it leaves holds the returned hash. -/
theorem getGenesisHash_caches (c : Client Conn Md) :
    (getGenesisHash node c).1.genesisHash = (getGenesisHash node c).2 := by
  unfold getGenesisHash
  split_ifs with hg
  · rfl
  · split
    · exact not_not.1 hg
    · rfl

/-- With a hash cached, `getGenesisHash` returns it without asking the node. -/
theorem getGenesisHash_of_cached {c : Client Conn Md} (hg : c.genesisHash ≠ "") :
    getGenesisHash node c = (c, c.genesisHash) :=
  if_pos hg

/-- Once `getGenesisHash` has returned a hash, every later call along any run returns that
hash, whatever the node answers then, and leaves the client as it is. -/
theorem getGenesisHash_stable {c c' : Client Conn Md} (hg : (getGenesisHash node c).2 ≠ "")
    (h : Steps codec (getGenesisHash node c).1 c') (node' : Node Conn Md) :
    getGenesisHash node' c' = (c', (getGenesisHash node c).2) := by
  have hc' : c'.genesisHash = (getGenesisHash node c).2 :=
    @Steps.inv _ _ codec (fun d => d.genesisHash = (getGenesisHash node c).2)
      (fun node _ op hd => (step_frame codec node op (hd ▸ hg)).trans hd) _ _ h
      (getGenesisHash_caches node c)
  rw [getGenesisHash_of_cached node' (hc' ▸ hg), hc']

/-- `getGenesisHash_stable` on the sample chain: the hash fetched once is returned after a
change of prefix, by a node that can no longer answer. -/
theorem getGenesisHash_stable_sample :
    (getGenesisHash (sampleNode sampleRuntime (some (), none) none .null) sampleClient).2 ≠ "" ∧
    getGenesisHash { sampleNode sampleRuntime (some (), none) none .null with
        getBlockHash := fun _ _ => .error "closed" }
      (step (sampleCodec (fun _ => .panicked) [] sampleEvents)
        (sampleNode sampleRuntime (some (), none) none .null)
        (getGenesisHash (sampleNode sampleRuntime (some (), none) none .null) sampleClient).1
        (.setPrefix [42])) =
      (step (sampleCodec (fun _ => .panicked) [] sampleEvents)
        (sampleNode sampleRuntime (some (), none) none .null)
        (getGenesisHash (sampleNode sampleRuntime (some (), none) none .null) sampleClient).1
        (.setPrefix [42]),
        (getGenesisHash (sampleNode sampleRuntime (some (), none) none .null) sampleClient).2) :=
  ⟨by decide, getGenesisHash_stable _ _ (by decide) (.step (.setPrefix [42]) (.refl _)) _⟩

/-! ## Runs as sequences of queries -/

/-- The client a sequence of queries leaves, each query under the node given with it. -/
def run (c : Client Conn Md) : List (Node Conn Md × Op) → Client Conn Md
  | [] => c
  | (node, op) :: queries => run (step codec node c op) queries

/-- What a run leaves is reached by a run in the sense of `Steps`. -/
theorem Steps.run {c₀ c : Client Conn Md} (h : Steps codec c₀ c)
    (queries : List (Node Conn Md × Op)) : Steps codec c₀ (run codec c queries) := by
  induction queries generalizing c with
  | nil => exact h
  | cons q queries ih =>
    obtain ⟨node, op⟩ := q
    exact ih (.step op h)

/-- A property that every allowed query keeps holds after a run of allowed queries. -/
theorem run_inv {P : Client Conn Md → Prop} {allowed : Node Conn Md × Op → Prop}
    (hstep : ∀ c q, allowed q → P c → P (step codec q.1 c q.2))
    {queries : List (Node Conn Md × Op)} (hq : ∀ q ∈ queries, allowed q) {c : Client Conn Md}
    (hc : P c) : P (run codec c queries) := by
  induction queries generalizing c with
  | nil => exact hc
  | cons q queries ih =>
    obtain ⟨node, op⟩ := q
    exact ih (fun q' hq' => hq q' (List.mem_cons_of_mem _ hq'))
      (hstep c _ (hq _ (List.mem_cons_self _ _)) hc)

/-- Along any run, under any node behaviour, the client keeps its url and holds either the
connection it started with or the one that some query's node made to that url, right after
that node answered the runtime-version request on the connection the client then held with
an error reporting it closed. -/
theorem run_conn (c : Client Conn Md) (queries : List (Node Conn Md × Op)) :
    (run codec c queries).url = c.url ∧
      ((run codec c queries).c = c.c ∨
        ∃ pre node op post, queries = pre ++ (node, op) :: post ∧
          ∃ err, node.getRuntimeVersionLatest (run codec c pre).c = .error err ∧
            stringsContains err "tls: use of closed connection" = true ∧
            node.connect c.url = .ok (run codec c queries).c) := by
  induction queries generalizing c with
  | nil => exact ⟨rfl, .inl rfl⟩
  | cons q queries ih =>
    obtain ⟨node, op⟩ := q
    obtain ⟨hurl₁, hC₁⟩ := step_conn codec node c op
    obtain ⟨hurl, hC⟩ := ih (step codec node c op)
    refine ⟨hurl.trans hurl₁, ?_⟩
    rcases hC with hC | ⟨pre, node', op', post, rfl, err, herr, hclosed, hconn⟩
    · -- The later queries kept the connection this one left.
      rcases hC₁ with hC₁ | ⟨err, herr, hclosed, hconn⟩
      · exact .inl (hC.trans hC₁)
      · exact .inr ⟨[], node, op, queries, rfl, err, herr, hclosed, hC.symm ▸ hconn⟩
    · exact .inr ⟨(node, op) :: pre, node', op', post, rfl, err, herr, hclosed, hurl₁ ▸ hconn⟩

/-- A query other than `setPrefix` keeps the address prefix. -/
theorem step_prefixBytes (c : Client Conn Md) {op : Op} (hop : ∀ p, op ≠ .setPrefix p) :
    (step codec node c op).prefixBytes = c.prefixBytes := by
  obtain ⟨-, hpre, -⟩ := checkRuntimeVersion_frame node c
  rcases step_cases codec node c op with h | h | ⟨p, rfl, -⟩ | ⟨-, g, h⟩
  · rw [h]
  · rw [h, hpre]
  · exact absurd rfl (hop p)
  · rw [h]

/-- The address prefix changes only through `setPrefix`: along any run of other queries,
under any node, runtime upgrades that rename the chain included, it stays the prefix `new`
took from the chain name or the one `setPrefix` last set. -/
theorem run_prefixBytes (c : Client Conn Md) (queries : List (Node Conn Md × Op))
    (hq : ∀ q ∈ queries, ∀ p, q.2 ≠ .setPrefix p) :
    (run codec c queries).prefixBytes = c.prefixBytes :=
  @run_inv _ _ codec (fun d => d.prefixBytes = c.prefixBytes) _
    (fun d q hop hd => (step_prefixBytes codec q.1 d hop).trans hd) _ hq _ rfl

/-- `run_prefixBytes` on a run in which the chain is upgraded and renamed `kusama`. -/
theorem run_prefixBytes_sample :
    (∀ q ∈ [(sampleNode ⟨"kusama", 10, 6⟩ (some (), none) none .null, Op.getBlockByHash "0x02"),
        (sampleNode ⟨"kusama", 10, 6⟩ (some (), none) none .null, Op.getGenesisHash)],
      ∀ p, q.2 ≠ .setPrefix p) ∧
    (run (sampleCodec (fun _ => .panicked) [] sampleEvents) sampleClient
        [(sampleNode ⟨"kusama", 10, 6⟩ (some (), none) none .null, .getBlockByHash "0x02"),
          (sampleNode ⟨"kusama", 10, 6⟩ (some (), none) none .null, .getGenesisHash)]).prefixBytes =
      sampleClient.prefixBytes := by
  have hq : ∀ q ∈ [(sampleNode ⟨"kusama", 10, 6⟩ (some (), none) none .null, Op.getBlockByHash "0x02"),
      (sampleNode ⟨"kusama", 10, 6⟩ (some (), none) none .null, Op.getGenesisHash)],
      ∀ p, q.2 ≠ .setPrefix p := by
    simp
  exact ⟨hq, run_prefixBytes _ _ _ hq⟩

/-- Along any run, the transaction version and the chain name are never taken from two
runtime reports: they are those the client started with, or both those of one report, the
one the node of some query gave over the connection the client held once that query was
done. (The spec version is not among them: a failed metadata fetch leaves it behind.) -/
theorem run_identity (c : Client Conn Md) (queries : List (Node Conn Md × Op)) :
    ((run codec c queries).transactionVersion = c.transactionVersion ∧
        (run codec c queries).chainName = c.chainName) ∨
      ∃ k, ∃ hk : k < queries.length, ∃ v,
        (queries.get ⟨k, hk⟩).1.getRuntimeVersionLatest
            (run codec c (queries.take (k + 1))).c = .ok v ∧
        (run codec c queries).transactionVersion = v.transactionVersion.toNat ∧
        (run codec c queries).chainName = v.specName := by
  induction queries generalizing c with
  | nil => exact .inl ⟨rfl, rfl⟩
  | cons q queries ih =>
    obtain ⟨node, op⟩ := q
    rcases ih (step codec node c op) with ⟨ht, hn⟩ | ⟨k, hk, v, hv, ht, hn⟩
    · -- The rest of the run kept what the first query left.
      rcases step_identity codec node c op with ⟨ht₀, hn₀⟩ | ⟨v, hv, ht₀, hn₀⟩
      · exact .inl ⟨ht.trans ht₀, hn.trans hn₀⟩
      · exact .inr ⟨0, Nat.succ_pos _, v, hv, ht.trans ht₀, hn.trans hn₀⟩
    · exact .inr ⟨k + 1, Nat.succ_lt_succ hk, v, hv, ht, hn⟩

/-- Under a node that reports the client's spec version, a query does not refetch the
metadata: the metadata and the spec version stay as they are. -/
theorem step_meta_of_version (c : Client Conn Md) (op : Op)
    (hv : ∀ conn v, node.getRuntimeVersionLatest conn = .ok v →
      (v.specVersion.toNat : Int) = c.specVersion) :
    (step codec node c op).meta = c.meta ∧ (step codec node c op).specVersion = c.specVersion := by
  have hcheck : (checkRuntimeVersion node c).1.meta = c.meta ∧
      (checkRuntimeVersion node c).1.specVersion = c.specVersion := by
    rcases checkRuntimeVersion_cases node c with ⟨_, _, h⟩ | ⟨conn, v, hv', ⟨-, h⟩ | ⟨hs, -⟩⟩
    · simp [h]
    · simp [h]
    · exact absurd (hv conn v hv') hs
  rcases step_cases codec node c op with h | h | ⟨p, -, h⟩ | ⟨-, g, h⟩ <;> rw [h]
  · exact ⟨rfl, rfl⟩
  · exact hcheck
  · exact ⟨rfl, rfl⟩
  · exact ⟨rfl, rfl⟩

/-- As long as the nodes report the client's spec version, no query refetches the metadata:
along any run it stays what it was, even the nil pointer a failed fetch left behind. -/
theorem run_meta_of_version (c : Client Conn Md) (queries : List (Node Conn Md × Op))
    (hv : ∀ q ∈ queries, ∀ conn v, q.1.getRuntimeVersionLatest conn = .ok v →
      (v.specVersion.toNat : Int) = c.specVersion) :
    (run codec c queries).meta = c.meta ∧ (run codec c queries).specVersion = c.specVersion :=
  @run_inv _ _ codec (fun d => d.meta = c.meta ∧ d.specVersion = c.specVersion) _
    (fun d q hq ⟨hm, hs⟩ =>
      let ⟨hm', hs'⟩ := step_meta_of_version codec q.1 d q.2 fun conn v h => hs ▸ hq conn v h
      ⟨hm'.trans hm, hs'.trans hs⟩) _ hv _ ⟨rfl, rfl⟩

/-- `run_meta_of_version` on a client left with no metadata, asked for a block by a node that
reports its spec version and would send metadata. -/
theorem run_meta_of_version_sample :
    (∀ q ∈ [(sampleNode sampleRuntime (some (), none) (some sampleBlock) .null,
        Op.getBlockByHash "0x02")], ∀ conn v, q.1.getRuntimeVersionLatest conn = .ok v →
          (v.specVersion.toNat : Int) = ({ sampleClient with meta := none } : Client Unit Unit).specVersion) ∧
    (run (sampleCodec (fun _ => .panicked) [] sampleEvents) { sampleClient with meta := none }
        [(sampleNode sampleRuntime (some (), none) (some sampleBlock) .null, .getBlockByHash "0x02")]).meta =
      ({ sampleClient with meta := none } : Client Unit Unit).meta ∧
    (run (sampleCodec (fun _ => .panicked) [] sampleEvents) { sampleClient with meta := none }
        [(sampleNode sampleRuntime (some (), none) (some sampleBlock) .null, .getBlockByHash "0x02")]).specVersion =
      ({ sampleClient with meta := none } : Client Unit Unit).specVersion := by
  have hv : ∀ q ∈ [(sampleNode sampleRuntime (some (), none) (some sampleBlock) .null,
      Op.getBlockByHash "0x02")], ∀ conn v, q.1.getRuntimeVersionLatest conn = .ok v →
        (v.specVersion.toNat : Int) = ({ sampleClient with meta := none } : Client Unit Unit).specVersion := by
    intro q hq conn v h
    obtain rfl := List.mem_singleton.1 hq
    cases h
    rfl
  exact ⟨hv, run_meta_of_version _ _ _ hv⟩

/-! ## A settled runtime -/

/-- A query on a settled client keeps the part of it the runtime check reads and writes. -/
theorem step_runtimeState {c : Client Conn Md} (hs : Settled node c) (op : Op) :
    runtimeState (step codec node c op) = runtimeState c := by
  rcases step_cases codec node c op with h | h | ⟨p, -, h⟩ | ⟨-, g, h⟩ <;> rw [h]
  · rw [checkRuntimeVersion_of_settled node hs]
  · rfl
  · rfl

/-- Once a runtime check has returned nil, no run of queries under nodes that keep
reporting the same runtime over that connection changes the client's connection, metadata,
spec and transaction versions or chain name, whatever else the nodes answer: the client
neither reconnects nor fetches the metadata again. -/
theorem run_settled (c : Client Conn Md) (hc : (checkRuntimeVersion node c).2 = none)
    (queries : List (Node Conn Md × Op))
    (hq : ∀ q ∈ queries, q.1.getRuntimeVersionLatest (checkRuntimeVersion node c).1.c =
      node.getRuntimeVersionLatest (checkRuntimeVersion node c).1.c) :
    runtimeState (run codec (checkRuntimeVersion node c).1 queries) =
      runtimeState (checkRuntimeVersion node c).1 := by
  obtain ⟨v, hv, hsettled⟩ := checkRuntimeVersion_settled node hc
  refine run_inv codec (P := fun d => runtimeState d = runtimeState (checkRuntimeVersion node c).1)
    (fun d q hq' hd => ?_) hq rfl
  -- The query's node settles the client it starts from, which agrees with the checked one.
  have hs : Settled q.1 d := Settled.of_runtimeState q.1 hd ⟨v, hq'.trans hv, hsettled⟩
  exact (step_runtimeState codec q.1 hs q.2).trans hd

/-- `run_settled` on the sample chain: a block query, then an account query under a node
whose metadata request would now fail, which is never made. -/
theorem run_settled_sample :
    (checkRuntimeVersion (sampleNode sampleRuntime (some (), none) none .null) sampleClient).2 = none ∧
    (∀ q ∈ [(sampleNode sampleRuntime (some (), none) (some sampleBlock) (.string "0x00"),
          Op.getBlockByHash "0x02"),
        (sampleNode sampleRuntime (none, some "metadata gone") none .null, Op.getAccountInfo "alice")],
      q.1.getRuntimeVersionLatest
          (checkRuntimeVersion (sampleNode sampleRuntime (some (), none) none .null) sampleClient).1.c =
        (sampleNode sampleRuntime (some (), none) none .null).getRuntimeVersionLatest
          (checkRuntimeVersion (sampleNode sampleRuntime (some (), none) none .null) sampleClient).1.c) ∧
    runtimeState (run (sampleCodec (fun _ => .decoded sampleTransfer) [] sampleEvents)
        (checkRuntimeVersion (sampleNode sampleRuntime (some (), none) none .null) sampleClient).1
        [(sampleNode sampleRuntime (some (), none) (some sampleBlock) (.string "0x00"),
            .getBlockByHash "0x02"),
          (sampleNode sampleRuntime (none, some "metadata gone") none .null, .getAccountInfo "alice")]) =
      runtimeState
        (checkRuntimeVersion (sampleNode sampleRuntime (some (), none) none .null) sampleClient).1 := by
  have hq : ∀ q ∈ [(sampleNode sampleRuntime (some (), none) (some sampleBlock) (.string "0x00"),
        Op.getBlockByHash "0x02"),
      (sampleNode sampleRuntime (none, some "metadata gone") none .null, Op.getAccountInfo "alice")],
      q.1.getRuntimeVersionLatest
          (checkRuntimeVersion (sampleNode sampleRuntime (some (), none) none .null) sampleClient).1.c =
        (sampleNode sampleRuntime (some (), none) none .null).getRuntimeVersionLatest
          (checkRuntimeVersion (sampleNode sampleRuntime (some (), none) none .null) sampleClient).1.c := by
    intro q hq
    rcases List.mem_pair.1 hq with rfl | rfl <;> rfl
  exact ⟨rfl, hq, run_settled (sampleCodec (fun _ => .decoded sampleTransfer) [] sampleEvents)
    (sampleNode sampleRuntime (some (), none) none .null) sampleClient rfl _ hq⟩

/-- On a settled client, a block or account query changes nothing. -/
theorem step_of_settled {c : Client Conn Md} (hs : Settled node c) {op : Op}
    (hop : op ≠ .getGenesisHash) (hp : ∀ p, op ≠ .setPrefix p) : step codec node c op = c := by
  have hcheck := checkRuntimeVersion_of_settled node hs
  cases op with
  | getBlockByHash blockHash => rw [step, getBlockByHash_fst, hcheck]
  | getBlockByNumber height =>
    simp only [step, getBlockByNumber]
    split
    · rfl
    · rw [getBlockByHash_fst, hcheck]
  | getAccountInfo address => rw [step, getAccountInfo_fst, hcheck]
  | getGenesisHash => exact absurd rfl hop
  | setPrefix p => exact absurd rfl (hp p)

/-- Fetching a block again gives the same report. After a `getBlockByHash` that returned a
report, a run of block and account queries under nodes that keep reporting the same
runtime leaves the client as it was, and the same call under the same node then returns
the same report. -/
theorem getBlockByHash_repeat (c : Client Conn Md) {c' : Client Conn Md} {r : BlockResponse}
    {blockHash : String} (h : getBlockByHash codec node c blockHash = (c', .ok r))
    (queries : List (Node Conn Md × Op))
    (hq : ∀ q ∈ queries, (q.2 ≠ .getGenesisHash ∧ ∀ p, q.2 ≠ .setPrefix p) ∧
      q.1.getRuntimeVersionLatest c'.c = node.getRuntimeVersionLatest c'.c) :
    run codec c' queries = c' ∧
      getBlockByHash codec node (run codec c' queries) blockHash = (c', .ok r) := by
  obtain ⟨hc, hbody⟩ := getBlockByHash_ok_inv codec node c blockHash h
  obtain ⟨v, hv, hsettled⟩ : Settled node c' := by
    simpa only [hc] using checkRuntimeVersion_settled node (c := c) (by rw [hc])
  have hrun : run codec c' queries = c' :=
    run_inv codec (P := fun d => d = c') (fun d q hq' hd => by
      subst hd
      exact step_of_settled codec q.1 ⟨v, hq'.2.trans hv, hsettled⟩ hq'.1.1 hq'.1.2) hq rfl
  refine ⟨hrun, ?_⟩
  rw [hrun, getBlockByHash, checkRuntimeVersion_of_settled node ⟨v, hv, hsettled⟩]
  exact congrArg (Prod.mk c') hbody

/-- `getBlockByHash_repeat` on the sample block, fetched again after an account query and a
query by height, the last under a node whose metadata request would now fail. -/
theorem getBlockByHash_repeat_sample :
    ∃ c' r, getBlockByHash (sampleCodec (fun _ => .decoded sampleTransfer) [] sampleEvents)
        (sampleNode sampleRuntime (some (), none) (some sampleBlock) (.string "0x00"))
        sampleClient "0x02" = (c', .ok r) ∧
      run (sampleCodec (fun _ => .decoded sampleTransfer) [] sampleEvents) c'
          [(sampleNode sampleRuntime (some (), none) none .null, .getAccountInfo "alice"),
            (sampleNode sampleRuntime (none, some "metadata gone") none .null, .getBlockByNumber 1)] = c' ∧
      getBlockByHash (sampleCodec (fun _ => .decoded sampleTransfer) [] sampleEvents)
          (sampleNode sampleRuntime (some (), none) (some sampleBlock) (.string "0x00"))
          (run (sampleCodec (fun _ => .decoded sampleTransfer) [] sampleEvents) c'
            [(sampleNode sampleRuntime (some (), none) none .null, .getAccountInfo "alice"),
              (sampleNode sampleRuntime (none, some "metadata gone") none .null,
                .getBlockByNumber 1)]) "0x02" = (c', .ok r) :=
  ⟨_, _, rfl, getBlockByHash_repeat (sampleCodec (fun _ => .decoded sampleTransfer) [] sampleEvents)
    (sampleNode sampleRuntime (some (), none) (some sampleBlock) (.string "0x00")) sampleClient rfl _
    (by
      intro q hq
      rcases List.mem_pair.1 hq with rfl | rfl <;> exact ⟨⟨nofun, nofun⟩, rfl⟩)⟩

/-! ## A new client -/

/-- A client `new` returns is the one the runtime check left on a fresh client of a new
connection, given the prefix of its chain name: the fresh client has none, and the check
keeps that. -/
theorem new_ok_inv {url : String} {noPalletIndices : Bool} {c : Client Conn Md}
    (h : new codec node url noPalletIndices = .ok c) :
    ∃ basicType conn c₀, codec.initBasicTypesByHexData = .ok basicType ∧
      checkRuntimeVersion node (newClient url conn) = (c₀, none) ∧
      c = { c₀ with prefixBytes := basicType.getChainPrefix c₀.chainName } := by
  unfold new at h
  rcases hb : codec.initBasicTypesByHexData with err | basicType <;> simp only [hb] at h
  · cases h
  rcases hn : node.newSubstrateAPI url with err | conn <;> simp only [hn] at h
  · cases h
  rcases hc : checkRuntimeVersion node (newClient url conn) with ⟨c₀, _ | err⟩ <;>
    simp only [hc] at h
  · have hpre : c₀.prefixBytes = [] := by
      have := (checkRuntimeVersion_frame node (newClient url conn)).2.1
      rwa [hc] at this
    simp only [hpre, List.length_nil, if_true, Except.ok.injEq] at h
    exact ⟨basicType, conn, c₀, rfl, hc, h.symm⟩
  · cases h

/-! ## The genesis hash in hex -/

/-- What a client's genesis hash can be: empty, or a hash of block 0 as `hash.Hex()` writes
it. -/
def GenesisHex (s : String) : Prop :=
  s = "" ∨ ∃ hash, s = "0x" ++ Hex.encodeToString hash

/-- `getGenesisHash` returns the hash it had cached, block 0's hash in hex, or the empty
string when the node fails. -/
theorem getGenesisHash_hex {c : Client Conn Md} (hc : GenesisHex c.genesisHash) :
    GenesisHex (getGenesisHash node c).2 := by
  unfold getGenesisHash
  split_ifs
  · exact hc
  · split
    · exact .inl rfl
    · exact .inr ⟨_, rfl⟩

/-- A query keeps the genesis hash, but for `getGenesisHash`, which caches what it returns. -/
theorem step_genesisHash (c : Client Conn Md) (op : Op) :
    (step codec node c op).genesisHash = c.genesisHash ∨
      (step codec node c op).genesisHash = (getGenesisHash node c).2 := by
  have hcheck := (checkRuntimeVersion_frame node c).2.2
  cases op with
  | getBlockByHash blockHash => exact .inl (by simp only [step, getBlockByHash_fst, hcheck])
  | getBlockByNumber height =>
    simp only [step, getBlockByNumber]
    split
    · exact .inl rfl
    · exact .inl (by simp only [getBlockByHash_fst, hcheck])
  | getAccountInfo address => exact .inl (by simp only [step, getAccountInfo_fst, hcheck])
  | getGenesisHash => exact .inr (getGenesisHash_caches node c)
  | setPrefix p => exact .inl rfl

/-- Every client a run reaches holds an empty genesis hash or one in hex. -/
theorem Reachable.genesisHex {c : Client Conn Md} (hc : Reachable codec c) :
    GenesisHex c.genesisHash := by
  induction hc with
  | @new node url _ _ h =>
    obtain ⟨_, conn, c₀, -, hc₀, rfl⟩ := new_ok_inv codec node h
    have hfresh := (checkRuntimeVersion_frame node (newClient url conn)).2.2
    rw [hc₀] at hfresh
    exact .inl hfresh
  | step op _ ih =>
    rcases step_genesisHash codec _ _ op with h | h <;> rw [h]
    · exact ih
    · exact getGenesisHash_hex _ ih

/-! ## A runtime upgrade whose metadata fetch fails -/

/-- **Failing run** of the runtime check. A client built while the node reports spec
version 9 and transaction version 5 with its metadata, asked for a block once the node
reports spec version 10 and transaction version 6 but fails to send metadata, returns the
error, yet is left holding spec version 9 with transaction version 6 and no metadata. -/
theorem getBlockByHash_mixed_chain_identity :
    ∃ c₁ c₂,
      new (sampleCodec (fun _ => .panicked) [] sampleEvents)
        (sampleNode sampleRuntime (some (), none) none .null) "" false = .ok c₁ ∧
      getBlockByHash (sampleCodec (fun _ => .panicked) [] sampleEvents)
        (sampleNode ⟨"polkadot", 10, 6⟩ (none, some "decode metadata error") none .null) c₁
        "0x02" = (c₂, .error (.error "init metadata error: decode metadata error")) ∧
      Reachable (sampleCodec (fun _ => .panicked) [] sampleEvents) c₂ ∧
      (c₁.specVersion, c₁.transactionVersion, c₁.meta) = (9, 5, some ()) ∧
      (c₂.specVersion, c₂.transactionVersion, c₂.meta) = (9, 6, none) := by
  have hnew : Reachable (sampleCodec (fun _ => .panicked) [] sampleEvents) _ :=
    @Reachable.new _ _ (sampleCodec (fun _ => .panicked) [] sampleEvents)
      (sampleNode sampleRuntime (some (), none) none .null) "" false _ rfl
  exact ⟨_, _, rfl, rfl, @Reachable.step _ _ _
    (sampleNode ⟨"polkadot", 10, 6⟩ (none, some "decode metadata error") none .null) _
    (.getBlockByHash "0x02") hnew, rfl, rfl⟩

end Client

end Bifrost
