import Bifrost.Types

/-!
# Runtime version and metadata refresh

`checkRuntimeVersion` runs in `new` and at the start of every block and account query. It
asks the node for the runtime version, reconnecting once when the connection was closed
underneath it; it records the transaction version and the chain name; and it fetches new
metadata when the spec version differs from the stored one.

The model cuts it in two, `fetchRuntimeVersion` and `applyRuntimeVersion`, and says once
what each half can do to the client. From that:

* `checkRuntimeVersion_cases`: a call whose version fetch fails changes at most the
  connection. Otherwise it writes the transaction version and the chain name of the report,
  and replaces the metadata and the spec version when the reported spec version differs
  from the stored one; when that metadata fetch fails, it returns the error with the new
  transaction version, chain name and metadata pointer already written and the old spec
  version.
* `fetchRuntimeVersion_conn` and `checkRuntimeVersion_frame`: the connection changes only
  by the one reconnection to the client's own url after the node reported it closed, and
  the url, the address prefix and the genesis hash are left alone.
* `checkRuntimeVersion_error_names_step`: an error opens with the text of the request that
  failed.
* `checkRuntimeVersion_settled`: a call that returns nil leaves the client `Settled`, and
  on a settled client the call changes nothing (`checkRuntimeVersion_of_settled`).
-/

namespace Bifrost

namespace Client

variable {Conn Md : Type} (node : Node Conn Md)

/-- `reConnectWs`: a new connection to the client's url. -/
def reConnectWs (c : Client Conn Md) : Except String Conn :=
  node.connect c.url

/-- The first half of `checkRuntimeVersion`: the runtime version, asked for again over a
new connection when the first request finds the connection closed. -/
def fetchRuntimeVersion (c : Client Conn Md) :
    Client Conn Md × Except String RuntimeVersion :=
  match node.getRuntimeVersionLatest c.c with
  | .ok v => (c, .ok v)
  | .error err =>
    if !stringsContains err "tls: use of closed connection" then
      (c, .error ("init runtime version error,err=" ++ err))
    else
      match reConnectWs node c with
      | .error err => (c, .error ("reconnect error: " ++ err))
      | .ok cl =>
        match node.getRuntimeVersionLatest cl with
        | .error err =>
          ({ c with c := cl }, .error ("init runtime version error,aleady reconnect,err: " ++ err))
        | .ok v => ({ c with c := cl }, .ok v)

/-- The second half of `checkRuntimeVersion`, once the version `v` is known. The
transaction version and the chain name are written first. Only when the spec version
changed is the metadata fetched, and the pointer is written together with the error. -/
def applyRuntimeVersion (c : Client Conn Md) (v : RuntimeVersion) :
    Client Conn Md × Option String :=
  let c := { c with transactionVersion := v.transactionVersion.toNat, chainName := v.specName }
  let specVersion : Int := v.specVersion.toNat
  if specVersion ≠ c.specVersion then
    match node.getMetadataLatest c.c with
    | (meta, some err) => ({ c with meta := meta }, some ("init metadata error: " ++ err))
    | (meta, none) => ({ c with meta := meta, specVersion := specVersion }, none)
  else (c, none)

/-- `checkRuntimeVersion`: the client as the call leaves it, and the returned error
(`none` for nil). -/
def checkRuntimeVersion (c : Client Conn Md) : Client Conn Md × Option String :=
  match fetchRuntimeVersion node c with
  | (c, .error err) => (c, some err)
  | (c, .ok v) => applyRuntimeVersion node c v

/-! ## What one call can do -/

/-- Fetching the version changes nothing but the connection, and a version it returns is
what the node answers over the connection it leaves. -/
theorem fetchRuntimeVersion_spec (c : Client Conn Md) :
    (∃ conn, (fetchRuntimeVersion node c).1 = { c with c := conn }) ∧
      ∀ v, (fetchRuntimeVersion node c).2 = .ok v →
        node.getRuntimeVersionLatest (fetchRuntimeVersion node c).1.c = .ok v := by
  unfold fetchRuntimeVersion
  split
  · next v hv => exact ⟨⟨c.c, rfl⟩, fun w hw => by cases hw; exact hv⟩
  · split
    · exact ⟨⟨c.c, rfl⟩, fun _ h => by cases h⟩
    · split
      · exact ⟨⟨c.c, rfl⟩, fun _ h => by cases h⟩
      · next cl _ =>
        split
        · exact ⟨⟨cl, rfl⟩, fun _ h => by cases h⟩
        · next v hv => exact ⟨⟨cl, rfl⟩, fun w hw => by cases hw; exact hv⟩

/-- With an unchanged spec version, applying a version writes the transaction version and
the chain name and returns nil. -/
theorem applyRuntimeVersion_of_eq (c : Client Conn Md) (v : RuntimeVersion)
    (h : (v.specVersion.toNat : Int) = c.specVersion) :
    applyRuntimeVersion node c v =
      ({ c with transactionVersion := v.transactionVersion.toNat, chainName := v.specName },
        none) := by
  simp [applyRuntimeVersion, h]

/-- With a changed spec version and a metadata fetch that succeeds, the metadata and the
spec version are replaced too. -/
theorem applyRuntimeVersion_of_ne_ok (c : Client Conn Md) (v : RuntimeVersion)
    (h : (v.specVersion.toNat : Int) ≠ c.specVersion) {meta : Option Md}
    (hm : node.getMetadataLatest c.c = (meta, none)) :
    applyRuntimeVersion node c v =
      ({ c with
          transactionVersion := v.transactionVersion.toNat, chainName := v.specName
          meta := meta, specVersion := v.specVersion.toNat }, none) := by
  simp [applyRuntimeVersion, h, hm]

/-- With a changed spec version and a metadata fetch that fails, the error is returned
after the transaction version, the chain name and the metadata pointer were written. -/
theorem applyRuntimeVersion_of_ne_error (c : Client Conn Md) (v : RuntimeVersion)
    (h : (v.specVersion.toNat : Int) ≠ c.specVersion) {meta : Option Md} {err : String}
    (hm : node.getMetadataLatest c.c = (meta, some err)) :
    applyRuntimeVersion node c v =
      ({ c with
          transactionVersion := v.transactionVersion.toNat, chainName := v.specName
          meta := meta }, some ("init metadata error: " ++ err)) := by
  simp [applyRuntimeVersion, h, hm]

/-- Everything one `checkRuntimeVersion` can do to the client. Either the version fetch
fails, and at most the connection changed; or a version `v` arrives over a connection
`conn`, the transaction version and the chain name are written, and then the spec
version is unchanged, or the metadata fetch succeeds and the metadata and the spec version
are replaced, or it fails after the pointer was written. -/
theorem checkRuntimeVersion_cases (c : Client Conn Md) :
    (∃ conn err, checkRuntimeVersion node c = ({ c with c := conn }, some err)) ∨
    ∃ conn v, node.getRuntimeVersionLatest conn = .ok v ∧
      ((v.specVersion.toNat : Int) = c.specVersion ∧
        checkRuntimeVersion node c =
          ({ c with
              c := conn, transactionVersion := v.transactionVersion.toNat
              chainName := v.specName }, none) ∨
      (v.specVersion.toNat : Int) ≠ c.specVersion ∧ ∃ meta,
        (node.getMetadataLatest conn = (meta, none) ∧
          checkRuntimeVersion node c =
            ({ c with
                c := conn, transactionVersion := v.transactionVersion.toNat
                chainName := v.specName, meta := meta
                specVersion := v.specVersion.toNat }, none)) ∨
        ∃ err, node.getMetadataLatest conn = (meta, some err) ∧
          checkRuntimeVersion node c =
            ({ c with
                c := conn, transactionVersion := v.transactionVersion.toNat
                chainName := v.specName, meta := meta },
              some ("init metadata error: " ++ err))) := by
  obtain ⟨⟨conn, hconn⟩, hfetch⟩ := fetchRuntimeVersion_spec node c
  rcases hf : fetchRuntimeVersion node c with ⟨c₁, err | v⟩
  · rw [hf] at hconn
    exact .inl ⟨conn, err, by simp [checkRuntimeVersion, hf, ← hconn]⟩
  · rw [hf] at hconn hfetch
    subst hconn
    refine .inr ⟨conn, v, hfetch v rfl, ?_⟩
    simp only [checkRuntimeVersion, hf]
    by_cases hs : (v.specVersion.toNat : Int) = c.specVersion
    · exact .inl ⟨hs, applyRuntimeVersion_of_eq node { c with c := conn } v hs⟩
    · rcases hm : node.getMetadataLatest conn with ⟨meta, _ | err⟩
      · exact .inr ⟨hs, meta,
          .inl ⟨rfl, applyRuntimeVersion_of_ne_ok node { c with c := conn } v hs hm⟩⟩
      · exact .inr ⟨hs, meta,
          .inr ⟨err, rfl, applyRuntimeVersion_of_ne_error node { c with c := conn } v hs hm⟩⟩

/-- The runtime check leaves the url, the address prefix and the genesis hash alone. -/
theorem checkRuntimeVersion_frame (c : Client Conn Md) :
    (checkRuntimeVersion node c).1.url = c.url ∧
      (checkRuntimeVersion node c).1.prefixBytes = c.prefixBytes ∧
      (checkRuntimeVersion node c).1.genesisHash = c.genesisHash := by
  rcases checkRuntimeVersion_cases node c with
    ⟨_, _, h⟩ | ⟨_, _, -, ⟨-, h⟩ | ⟨-, _, ⟨-, h⟩ | ⟨_, -, h⟩⟩⟩ <;> simp [h]

/-- The version fetch changes the connection only after the node reported it closed, and
then to a new connection to the client's own url. -/
theorem fetchRuntimeVersion_conn (c : Client Conn Md) :
    (fetchRuntimeVersion node c).1.c = c.c ∨
      ∃ err, node.getRuntimeVersionLatest c.c = .error err ∧
        stringsContains err "tls: use of closed connection" = true ∧
        node.connect c.url = .ok (fetchRuntimeVersion node c).1.c := by
  unfold fetchRuntimeVersion
  split
  · exact .inl rfl
  · next err herr =>
    split
    · exact .inl rfl
    · next hclosed =>
      split
      · exact .inl rfl
      · next cl hcl =>
        split <;> exact .inr ⟨err, herr, by simpa using hclosed, hcl⟩

/-- Applying a version keeps the connection the fetch left. -/
theorem checkRuntimeVersion_c (c : Client Conn Md) :
    (checkRuntimeVersion node c).1.c = (fetchRuntimeVersion node c).1.c := by
  unfold checkRuntimeVersion
  split
  · next heq => rw [heq]
  · next heq =>
    rw [heq]
    unfold applyRuntimeVersion
    dsimp only
    split_ifs
    · split <;> rfl
    · rfl

/-! ## Its errors -/

/-- The texts that open the errors of the runtime check, one for each request that can
fail: the version, the reconnection, the version over the new connection, the metadata. -/
def runtimeErrorPrefixes : List String :=
  ["init runtime version error,err=", "reconnect error: ",
    "init runtime version error,aleady reconnect,err: ", "init metadata error: "]

/-- Every error of the version fetch names the request that failed. -/
theorem fetchRuntimeVersion_error_names_step (c : Client Conn Md) {err : String}
    (h : (fetchRuntimeVersion node c).2 = .error err) :
    hasPrefixIn runtimeErrorPrefixes err = true := by
  unfold fetchRuntimeVersion at h
  repeat' split at h
  all_goals simp only [Except.error.injEq, reduceCtorEq] at h
  all_goals subst h; exact hasPrefixIn_append (by decide) _

/-- Every error of the runtime check names the request that failed. -/
theorem checkRuntimeVersion_error_names_step (c : Client Conn Md) {err : String}
    (h : (checkRuntimeVersion node c).2 = some err) :
    hasPrefixIn runtimeErrorPrefixes err = true := by
  unfold checkRuntimeVersion at h
  rcases hf : fetchRuntimeVersion node c with ⟨c₁, e | v⟩ <;> simp only [hf] at h
  · cases h
    exact fetchRuntimeVersion_error_names_step node c (by rw [hf])
  · by_cases hs : (v.specVersion.toNat : Int) = c₁.specVersion
    · rw [applyRuntimeVersion_of_eq node c₁ v hs] at h
      cases h
    · rcases hm : node.getMetadataLatest c₁.c with ⟨meta, _ | e⟩
      · rw [applyRuntimeVersion_of_ne_ok node c₁ v hs hm] at h
        cases h
      · rw [applyRuntimeVersion_of_ne_error node c₁ v hs hm] at h
        cases h
        exact hasPrefixIn_append (by decide) _

/-! ## Settled clients -/

/-- The part of a client the runtime check reads and writes: the connection, the metadata,
the spec and transaction versions and the chain name. -/
def runtimeState (c : Client Conn Md) : Conn × Option Md × Int × Int × String :=
  (c.c, c.meta, c.specVersion, c.transactionVersion, c.chainName)

/-- The node reports, over the client's connection, the runtime the client holds. -/
def Settled (c : Client Conn Md) : Prop :=
  ∃ v, node.getRuntimeVersionLatest c.c = .ok v ∧ c.specVersion = v.specVersion.toNat ∧
    c.transactionVersion = v.transactionVersion.toNat ∧ c.chainName = v.specName

/-- Whether a client is settled depends on its runtime state alone. -/
theorem Settled.of_runtimeState {c d : Client Conn Md} (h : runtimeState d = runtimeState c)
    (hs : Settled node c) : Settled node d := by
  simp only [runtimeState, Prod.mk.injEq] at h
  obtain ⟨hC, -, hS, hT, hN⟩ := h
  obtain ⟨v, hv, hspec, htx, hname⟩ := hs
  exact ⟨v, hC ▸ hv, hS.trans hspec, hT.trans htx, hN.trans hname⟩

/-- On a settled client the runtime check changes nothing and returns nil. -/
theorem checkRuntimeVersion_of_settled {c : Client Conn Md} (hs : Settled node c) :
    checkRuntimeVersion node c = (c, none) := by
  obtain ⟨v, hv, hspec, htx, hname⟩ := hs
  simp only [checkRuntimeVersion, fetchRuntimeVersion, hv,
    applyRuntimeVersion_of_eq node c v hspec.symm, ← htx, ← hname]

/-- A runtime check that returns nil leaves the client settled. -/
theorem checkRuntimeVersion_settled {c : Client Conn Md}
    (hok : (checkRuntimeVersion node c).2 = none) :
    Settled node (checkRuntimeVersion node c).1 := by
  rcases checkRuntimeVersion_cases node c with
    ⟨conn, err, h⟩ | ⟨conn, v, hv, ⟨hs, h⟩ | ⟨-, meta, ⟨-, h⟩ | ⟨err, -, h⟩⟩⟩ <;>
    rw [h] at hok ⊢
  · cases hok
  · exact ⟨v, hv, hs.symm, rfl, rfl⟩
  · exact ⟨v, hv, rfl, rfl, rfl⟩
  · cases hok

end Client

end Bifrost
