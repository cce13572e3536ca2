import DesfireSdk.Native.Raw.Bounds
import DesfireSdk.Native.Secure.Exchange
import DesfireSdk.Security.Ev2.Interoperation
import DesfireSdk.Security.StandardAes.Interoperation
import DesfireSdk.Security.StandardAes.Search

/-! The raw response bound against what protection adds, and the clear sizes beyond it. -/
namespace DesfireSdk.Native.Secure
open Interaction Program Model Security

section Overhead
variable {P : Primitives} {request : Request} {answer payload : Bytes}

def ev2Mode : CommunicationMode → Ev2.Mode
  | .plain => .plain
  | .mac => .mac
  | _ => .full

def standardAesMode : CommunicationMode → StandardAes.Mode
  | .plain => .plain
  | .mac => .mac
  | _ => .full

/-- What a correct answer carries on the wire; the answer to a command that ends the session may come
without any protection. -/
inductive Honest (P : Primitives) (request : Request) (answer : Bytes) : Bytes → Prop
  | bare (hplain : request.responseMode = .plain) : Honest P request answer answer
  | ev2 (peer : Ev2.Peer) (bareEmpty : Bool) :
      Honest P request answer (peer.respond P (ev2Mode request.responseMode) bareEmpty answer).data
  | standardAes (peer : StandardAes.Peer) :
      Honest P request answer (peer.respond P (standardAesMode request.responseMode) answer).1.data

theorem length_ev2_signed (P : Primitives) (peer : Ev2.Peer) (payload : Bytes) :
    (peer.sign P payload).data.length = payload.length + 8 := by
  unfold Ev2.Peer.sign
  rw [List.length_append,Ev2.length_shortMac]
  rfl

theorem length_ev2_response (P : Primitives) (peer : Ev2.Peer) (mode : Ev2.Mode) (bareEmpty : Bool)
    (answer : Bytes) : (peer.respond P mode bareEmpty answer).data.length ≤ answer.length + 24 := by
  unfold Ev2.Peer.respond
  split
  · exact Nat.le_add_right _ _
  · rw [length_ev2_signed]
    omega
  · split
    · rw [length_ev2_signed,List.length_nil]
      omega
    · have hfill := Padding.fill_lt (show 0 < Ev2.aesBlockSize by decide) answer.length
      rw [length_ev2_signed,P.length_encrypt]
      simp only [Padding.pad,List.length_append,List.length_cons,List.length_replicate]
      unfold Ev2.aesBlockSize at hfill ⊢
      omega

theorem length_standardAes_response (P : Primitives) (peer : StandardAes.Peer) (mode : StandardAes.Mode)
    (answer : Bytes) : (peer.respond P mode answer).1.data.length ≤ answer.length + 19 := by
  have hsigned : (peer.sign P answer).1.data.length ≤ answer.length + 19 := by
    unfold StandardAes.Peer.sign
    rw [List.length_append,List.length_take]
    unfold StandardAes.transmittedMacSize
    omega
  unfold StandardAes.Peer.respond
  split
  · exact hsigned
  · exact hsigned
  · have hpadding := StandardAes.Peer.paddingSize_lt (answer.length + StandardAes.crcSize)
    unfold StandardAes.Peer.encipher
    rw [P.length_encrypt]
    simp only [List.length_append,length_putLe,length_zeros]
    unfold StandardAes.aesBlockSize at hpadding
    unfold StandardAes.crcSize at hpadding ⊢
    omega

/-- Protection adds at most twenty-four bytes, in either family and every mode. -/
theorem Honest.length (h : Honest P request answer payload) : payload.length ≤ answer.length + 24 := by
  cases h with
  | bare hplain => exact Nat.le_add_right _ _
  | ev2 peer bareEmpty => exact length_ev2_response ..
  | standardAes peer =>
    have hlength := length_standardAes_response P peer (standardAesMode request.responseMode) answer
    omega

theorem validate_bounds (h : validate request = .ok ()) :
    request.minimumResponse ≤ request.maximumResponse ∧
      request.maximumResponse ≤ maximumLogicalResponse := by
  unfold validate at h
  split at h
  · cases h
  · omega

end Overhead

section Sizes
variable {o : Oracle Environment} {σ : Type} {n : Nat} {run run' : Run Environment σ Fault Bytes}

/-- Clear data of another size than the expected one ends in an unknown outcome. -/
def Missized (n : Nat) (run run' : Run Environment σ Fault Bytes) : Prop :=
  ∀ clear, run.result = .ok clear → clear.length ≠ n →
    ∃ e : Error, run'.result = .error (.error e) ∧ e.outcome = .unknown

theorem missized_error {f : Fault} {s : σ} {es : Trace Environment} : Missized n ⟨.error f,s,es⟩ run' := by
  rintro _ ⟨⟩

theorem Missized.settled {cleanup : σ → σ} {e : Error} (h : Missized n run run') :
    Missized n (run.settled (Op.afterThrow cleanup e)) (run'.settled (Op.afterThrow cleanup e)) := by
  intro clear hclear hsize
  have hresult : run.result = .ok clear := by
    unfold Run.settled at hclear
    cases hrun : run.result with
    | ok data =>
      rw [hrun] at hclear
      exact hclear
    | error f =>
      rw [hrun] at hclear
      cases f <;> cases hclear
  obtain ⟨e',he',houtcome⟩ := h clear hresult hsize
  refine ⟨e',?_,houtcome⟩
  unfold Run.settled
  rw [he']
  rfl

theorem missized_catchAll {s : σ} {cleanup : σ → σ} {e : Error} {p q : Op σ Bytes}
    (h : Compares o p q s (Missized n)) :
    Compares o (Op.catchAll cleanup e p) (Op.catchAll cleanup e q) s (Missized n) :=
  compares_settle fun history => (h history).settled

theorem missized_bind {α : Type} {s : σ} {p : Op σ α} {f g : α → Op σ Bytes}
    (h : ∀ a s', Compares o (f a) (g a) s' (Missized n)) : Compares o (p >>= f) (p >>= g) s (Missized n) := by
  have hany : Ensures some o p s fun _ _ _ => True := fun _ => trivial
  refine compares_bind hany (fun _ _ _ _ => missized_error) ?_
  intro a s' es _ history
  exact h a s' history

/-- A clear size that differs from the expected one ends an EV2 session. -/
theorem ev2_missized (s : Ev2.Session) (response : Raw.Response) (n : Nat) :
    Compares o (Ev2.Session.verifyAndDecryptFullResponse response none)
      (Ev2.Session.verifyAndDecryptFullResponse response (some n)) s (Missized n) := by
  apply missized_bind
  intro ciphertext s
  apply compares_get_bind
  by_cases hempty : ciphertext = []
  · intro h clear hclear hsize
    rw [if_pos ⟨hempty,.inl rfl⟩] at hclear
    cases hclear
    have hexpected : ¬(ciphertext = [] ∧ (some n = none ∨ some n = some 0)) := by
      rintro ⟨_,hnone | hzero⟩
      · cases hnone
      · exact hsize (Option.some.inj hzero).symm
    rw [if_neg hexpected]
    unfold Op.refuseAfter
    rw [if_pos (.inl hempty)]
    exact ⟨_,rfl,rfl⟩
  · rw [if_neg fun h => hempty h.1,if_neg fun h => hempty h.1]
    apply missized_bind
    intro _ s
    apply missized_catchAll
    apply missized_bind
    intro iv s
    apply missized_bind
    intro padded s
    split
    · intro h clear hclear
      cases hclear
    · rename_i data _
      intro h clear hclear hsize
      have hnone : ¬∃ size ∈ (none : Option Nat), data.length ≠ size := by simp
      unfold Op.refuseAfter at hclear ⊢
      rw [if_neg hnone] at hclear
      cases hclear
      rw [if_pos ⟨n,rfl,hsize⟩]
      exact ⟨_,rfl,rfl⟩

/-- A boundary where padding and checksum fit is a candidate inside the plaintext. -/
theorem candidate_of_verifies {clear : Bytes} {status : Byte}
    (h : StandardAes.verifies clear status n = true) :
    n ∈ StandardAes.candidates clear ∧ n ≤ clear.length := by
  unfold StandardAes.verifies at h
  split at h
  · cases h
  rename_i hdata
  split at h
  · cases h
  rename_i hpadding
  unfold StandardAes.aesBlockSize at hpadding
  constructor
  · unfold StandardAes.candidates StandardAes.aesBlockSize
    rw [List.mem_map]
    refine ⟨clear.length - StandardAes.crcSize - n,List.mem_range.mpr ?_,?_⟩
    · omega
    · omega
  · omega

/-- A clear size that differs from the expected one ends a Standard AES session. -/
theorem standardAes_missized (s : StandardAes.Session) (response : Raw.Response) (n : Nat) :
    Compares o (StandardAes.Session.verifyAndDecryptFullResponse response none)
      (StandardAes.Session.verifyAndDecryptFullResponse response (some n)) s (Missized n) := by
  apply compares_get_bind
  apply missized_bind
  intro _ s
  apply missized_bind
  intro _ s
  apply missized_bind
  intro _ s
  apply missized_bind
  intro _ s
  apply missized_catchAll
  apply missized_bind
  intro clear s h data hdata hsize
  dsimp only at hdata ⊢
  generalize hfound : (StandardAes.candidates clear).filter (StandardAes.verifies clear response.status) = found
    at hdata
  match found with
  | [] => cases hdata
  | first :: second :: rest =>
    unfold Op.refuseAfter at hdata
    rw [if_pos (by simp)] at hdata
    cases hdata
  | [size] =>
    cases hdata
    have hfails : StandardAes.verifies clear response.status n = false := by
      by_contra hverifies
      rw [Bool.not_eq_false] at hverifies
      obtain ⟨hcandidate,hinside⟩ := candidate_of_verifies hverifies
      have hmember := List.mem_filter.mpr ⟨hcandidate,hverifies⟩
      rw [hfound,List.mem_singleton] at hmember
      rw [← hmember,List.length_take] at hsize
      omega
    have hnone : [n].filter (StandardAes.verifies clear response.status) = [] := by
      rw [List.filter_cons_of_neg (by rw [hfails]; exact Bool.noConfusion),List.filter_nil]
    have hsingle : ¬1 < ([n].filter (StandardAes.verifies clear response.status)).length := by
      rw [hnone]
      decide
    simp only [hnone]
    unfold Op.refuseAfter
    rw [if_neg hsingle]
    exact ⟨_,rfl,rfl⟩

end Sizes

section Protected
variable {σ : Type} [SecureSession σ] {o : Oracle Environment}

/-- An exchange from the raw response on. -/
def finish (request : Request) (response : Raw.Response) : Op σ Bytes := do
  let invalidated := fun (_ : Error) => SecureSession.invalidate (σ := σ)
  Op.refuseAfter SecureSession.invalidate (response.status ≠ 0x00) (rejected response.status)
  let clear ← Op.onError invalidated (accept request response)
  let checked ← Op.onError invalidated (Op.ofResult (checkResponseSize clear request))
  Program.modify fun s => if request.invalidatesSession then SecureSession.invalidate s else s
  pure checked

/-- Every protected exchange ends this way once the raw channel answered. -/
theorem exchangeProtected_finish (channel : Raw.RawNativeChannel) (request : Request)
    (options : ExchangeOptions) : exchangeProtected (σ := σ) channel request options = (do
      Op.ofResult (validate request)
      let transaction ← channel.begin options
      let prepared ← Op.onError (fun _ => SecureSession.invalidate) (prepare request)
      let response ← Op.onError (fun _ => SecureSession.invalidate)
        (Program.within transaction (Raw.Transaction.exchange (rawRequest request prepared)))
      finish request response) := rfl

/-- The reading of an answer without an expected size. -/
def verified (request : Request) (response : Raw.Response) : Op σ Bytes :=
  match request.responseMode with
  | .plain =>
    if request.invalidatesSession then pure response.data
    else SecureSession.acceptPlainResponse response
  | .mac => SecureSession.verifyResponse response
  | _ => SecureSession.verifyAndDecryptFullResponse response none

/-- The clear size is between the bounds of the request. -/
def Inside (request : Request) (clear : Bytes) : Prop :=
  request.minimumResponse ≤ clear.length ∧ clear.length ≤ request.maximumResponse

/-- Verified clear data is what the exchange reads, or it ends in an unknown outcome. -/
theorem accept_verified (hmissized : ∀ (s : σ) response n, Compares o
      (SecureSession.verifyAndDecryptFullResponse response none)
      (SecureSession.verifyAndDecryptFullResponse response (some n)) s (Missized n))
    {request : Request} {response : Raw.Response} {h : Trace Environment} {s : σ} {clear : Bytes}
    (hverified : (verified request response o h s).result = .ok clear) (houtside : ¬Inside request clear) :
    (accept request response o h s).result = .ok clear ∨
      ∃ e : Error, (accept request response o h s).result = .error (.error e) ∧ e.outcome = .unknown := by
  have hfull (hread : (SecureSession.verifyAndDecryptFullResponse response none o h s).result = .ok clear) :
      (SecureSession.verifyAndDecryptFullResponse response (expectedSize request) o h s).result = .ok clear ∨
        ∃ e : Error, (SecureSession.verifyAndDecryptFullResponse response (expectedSize request) o h s).result =
          .error (.error e) ∧ e.outcome = .unknown := by
    unfold expectedSize
    split
    · rename_i hfixed
      refine .inr (hmissized s response _ h clear hread ?_)
      intro hsize
      exact houtside ⟨by omega,by omega⟩
    · exact .inl hread
  unfold verified at hverified
  unfold accept
  cases hmode : request.responseMode with
  | plain | mac =>
    rw [hmode] at hverified
    exact .inl hverified
  | full | other =>
    rw [hmode] at hverified
    exact hfull hverified

/-- An exchange whose answer verifies to clear data outside the bounds is rejected, and its session ends. -/
theorem finish_outside (hmissized : ∀ (s : σ) response n, Compares o
      (SecureSession.verifyAndDecryptFullResponse response none)
      (SecureSession.verifyAndDecryptFullResponse response (some n)) s (Missized n))
    {request : Request} {response : Raw.Response} {h : Trace Environment} {s : σ} {clear : Bytes}
    (hstatus : response.status = 0x00) (hverified : (verified request response o h s).result = .ok clear)
    (houtside : ¬Inside request clear) :
    ∃ (e : Error) (s' : σ), (finish request response o h s).result = .error (.error e) ∧ e.outcome = .unknown ∧
      (finish request response o h s).state = SecureSession.invalidate s' := by
  have hterminal : Op.refuseAfter (τ := σ) SecureSession.invalidate (response.status ≠ 0x00)
      (rejected response.status) o h s = ⟨.ok (),s,[]⟩ := by
    unfold Op.refuseAfter
    rw [if_neg (fun h => h hstatus)]
    rfl
  have hsize : checkResponseSize clear request =
      .error ⟨.malformedResponse,"Native response violates checked command length",.unknown,0⟩ := by
    unfold checkResponseSize
    rw [if_pos]
    by_contra hinside
    exact houtside ⟨by omega,by omega⟩
  have hread := accept_verified hmissized hverified houtside
  unfold finish
  rw [bind_ok hterminal,List.append_nil]
  generalize hrun : accept request response o h s = run at hread
  obtain ⟨r,s₁,es⟩ := run
  rcases hread with hread | ⟨e,hread,houtcome⟩
  · cases hread
    have haccepted : Op.onError (fun _ => SecureSession.invalidate) (accept request response) o h s =
        ⟨.ok clear,s₁,es⟩ := by
      unfold Op.onError settle
      rw [hrun]
      rfl
    have hchecked : Op.onError (τ := σ) (fun _ => SecureSession.invalidate)
        (Op.ofResult (checkResponseSize clear request)) o (h ++ es) s₁ = ⟨.error (.error
          ⟨.malformedResponse,"Native response violates checked command length",.unknown,0⟩),
          SecureSession.invalidate s₁,[]⟩ := by
      rw [hsize]
      rfl
    rw [bind_ok haccepted,bind_error hchecked]
    exact ⟨_,s₁,rfl,rfl,rfl⟩
  · cases hread
    have hrefused : Op.onError (fun _ => SecureSession.invalidate) (accept request response) o h s =
        ⟨.error (.error e),SecureSession.invalidate s₁,es⟩ := by
      unfold Op.onError settle
      rw [hrun]
      rfl
    rw [bind_error hrefused]
    exact ⟨e,s₁,rfl,houtcome,rfl⟩

theorem ProtectedRun.inside {channel : Raw.RawNativeChannel} {request : Request} {s s' : σ} {clear : Bytes}
    {Prep : Except Fault Bytes → σ → Trace Environment → Prop}
    {Acc : σ → Raw.Response → Except Fault Bytes → σ → Trace Environment → Prop} {es : Trace Environment}
    (h : ProtectedRun o channel request s Prep Acc (.ok clear) s' es) : Inside request clear := by
  cases h with
  | done _ _ _ _ _ _ _ hsize => exact hsize

/-- What an exchange returns has a size between the bounds. -/
theorem exchangeProtected_inside {channel : Raw.RawNativeChannel} {request : Request}
    {options : ExchangeOptions} {h : Trace Environment} {s : σ} {clear : Bytes}
    (hresult : (exchangeProtected channel request options o h s).result = .ok clear) : Inside request clear := by
  have hruns : Ensures some o (exchangeProtected channel request options) s
      (ProtectedRun o channel request s (fun _ _ _ => True) fun _ _ _ _ _ => True) :=
    exchangeProtected_runs (fun _ => trivial) fun _ _ _ => trivial
  have hrun := hruns h
  rw [hresult] at hrun
  exact hrun.inside

end Protected

/-- The raw bound of a valid request is positive and does not overflow. Whatever the card's replies are, as
long as their data is part of an honest answer of an admitted size, the exchange takes the course it takes
under any greater bound. An answer that verifies to clear data of another size is rejected with an unknown
outcome and ends the session. -/
theorem response_bound_admits (request : Request) (hvalid : validate request = .ok ()) :
    (∀ wire, (rawRequest request wire).maximumResponse = request.maximumResponse + 32 ∧
      request.maximumResponse + 32 ≤ sizeMax) ∧
    (∀ (P : Primitives) (answer payload wire : Bytes) (bound : Nat), Inside request answer →
      Honest P request answer payload → (rawRequest request wire).maximumResponse ≤ bound →
      ∀ (o : Oracle Environment) (h : Trace Environment) (t : Raw.Transaction),
        Raw.Transaction.repliedData t.framing (deliveries (Raw.Transaction.exchange
          (Raw.Transaction.rebounded (rawRequest request wire) bound) o h t).events) <+: payload →
        Raw.Transaction.exchange (rawRequest request wire) o h t =
          Raw.Transaction.exchange (Raw.Transaction.rebounded (rawRequest request wire) bound) o h t) ∧
    (∀ (σ : Type) [SecureSession σ] (channel : Raw.RawNativeChannel) (options : ExchangeOptions),
      exchangeProtected (σ := σ) channel request options = (do
        Op.ofResult (validate request)
        let transaction ← channel.begin options
        let prepared ← Op.onError (fun _ => SecureSession.invalidate) (prepare request)
        let response ← Op.onError (fun _ => SecureSession.invalidate)
          (Program.within transaction (Raw.Transaction.exchange (rawRequest request prepared)))
        finish request response)) ∧
    (∀ (o : Oracle Environment) (h : Trace Environment) (response : Raw.Response) (clear : Bytes),
      response.status = 0x00 → ¬Inside request clear →
      (∀ s : Ev2.Session, (verified request response o h s).result = .ok clear →
        ∃ (e : Error) (s' : Ev2.Session), (finish request response o h s).result = .error (.error e) ∧
          e.outcome = .unknown ∧ (finish request response o h s).state = s'.invalidate) ∧
      ∀ s : StandardAes.Session, (verified request response o h s).result = .ok clear →
        ∃ (e : Error) (s' : StandardAes.Session), (finish request response o h s).result = .error (.error e) ∧
          e.outcome = .unknown ∧ (finish request response o h s).state = s'.invalidate) ∧
    (∀ (o : Oracle Environment) (channel : Raw.RawNativeChannel) (options : ExchangeOptions)
      (h : Trace Environment) (clear : Bytes),
      (∀ s : Ev2.Session, (exchangeProtected channel request options o h s).result = .ok clear →
        Inside request clear) ∧
      ∀ s : StandardAes.Session, (exchangeProtected channel request options o h s).result = .ok clear →
        Inside request clear) := by
  obtain ⟨_,hmaximum⟩ := validate_bounds hvalid
  refine ⟨?_,?_,fun σ _ channel options => exchangeProtected_finish channel request options,?_,?_⟩
  · intro wire
    unfold maximumLogicalResponse at hmaximum
    unfold sizeMax
    exact ⟨rfl,by omega⟩
  · intro P answer payload wire bound hinside hhonest hbound o h t hreplies
    have hlength := hhonest.length
    have hpart := hreplies.length_le
    have hslack : (rawRequest request wire).maximumResponse = request.maximumResponse + 32 := rfl
    refine Raw.Transaction.exchange_unbounded (by omega) hbound t h ?_
    have hadmitted := hinside.2
    omega
  · intro o h response clear hstatus houtside
    constructor
    · intro s hverified
      exact finish_outside ev2_missized hstatus hverified houtside
    · intro s hverified
      exact finish_outside standardAes_missized hstatus hverified houtside
  · intro o channel options h clear
    exact ⟨fun s => exchangeProtected_inside,fun s => exchangeProtected_inside⟩

/-- Two bytes are read in Full mode: their padded answer passes the bound, and three bytes end the session. -/
theorem response_bound_admits_read :
    let request : Request := {command := 0xBD,responseMode := .full,minimumResponse := 2,maximumResponse := 2}
    let peer : Ev2.Peer := ⟨zeros 16,zeros 16,zeros 4,1⟩
    let o := scripted {replies := [.ok (0x00 :: (peer.respond .echo .full false [7,8]).data)]}
    let t : Raw.Transaction := ⟨.direct,1,0,false⟩
    let s : Ev2.Session := ⟨zeros 16,zeros 16,{},1,.awaitingResponse,rfl,rfl⟩
    Raw.Transaction.exchange (rawRequest request []) o [] t =
      Raw.Transaction.exchange (Raw.Transaction.rebounded (rawRequest request []) sizeMax) o [] t ∧
    ∃ (e : Error) (s' : Ev2.Session),
      (finish request (peer.respond .echo .full false [7,8,9]) o [] s).result = .error (.error e) ∧
      e.outcome = .unknown ∧
      (finish request (peer.respond .echo .full false [7,8,9]) o [] s).state = s'.invalidate := by
  intro request peer o t s
  obtain ⟨_,hadmits,_,hrejects,_⟩ := response_bound_admits request rfl
  constructor
  · exact hadmits .echo [7,8] _ [] sizeMax ⟨by decide,by decide⟩ (.ev2 peer false) (by decide) o [] t
      (by decide +kernel)
  · obtain ⟨hev2,_⟩ := hrejects o [] (peer.respond .echo .full false [7,8,9]) [7,8,9] rfl
      (fun h => absurd h.2 (by decide))
    exact hev2 s (by decide +kernel)

end DesfireSdk.Native.Secure
