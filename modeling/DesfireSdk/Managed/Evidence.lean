import DesfireSdk.Managed.Execution
import DesfireSdk.Native.Secure.Authenticity
import DesfireSdk.Native.Secure.Replies

/-! What the result of one managed command says about the last reply of the card. -/
namespace DesfireSdk.Managed
open Interaction Program Native.Secure
open Native.Raw (Replied Answered)
open Native.Checked (Command)

theorem paired_secureRequest {command : Command} (h : command.Paired) : Paired (secureRequest command) :=
  h.paired

section Evidence
variable {o : Oracle Environment} {card card' : Card}

/-- The exchange and its last reply agree, whichever session is active. -/
theorem SecureRun.told {request : Request} {r : Except Fault Bytes} {es : Trace Environment}
    (h : SecureRun o card request r card' es) (hpaired : Paired request) : Told card.raw.framing r es := by
  cases h with
  | ev2 _ hrun =>
    refine hrun.told ?_ ?_
    · intro r s₁ es h
      refine ⟨h.cryptographic.deliveries,?_⟩
      rintro e rfl he
      exact h.supplied he
    · intro wire s₁ es₁ response r s₂ es hprepared hstatus h
      refine ⟨h.cryptographic.deliveries,?_⟩
      rintro e rfl
      exact h.unknown hpaired hprepared.prepared.phase hstatus
  | standardAes _ _ hrun =>
    refine hrun.told ?_ ?_
    · intro r s₁ es h
      refine ⟨h.cryptographic.deliveries,?_⟩
      rintro e rfl he
      exact aesPrepare_supplied h he
    · intro wire s₁ es₁ response r s₂ es hprepared hstatus h
      refine ⟨h.cryptographic.deliveries,?_⟩
      rintro e rfl
      cases hprepared with
      | prepared => exact h.unknown rfl hstatus
  | unprotected _ hrun => exact hrun.told

theorem told_untouched {framing : Native.Framing} {e : Error} {es : Trace Environment}
    (he : e.outcome = .notSent) (hes : Untouched es) : Told framing (.error (.error e)) es := by
  refine .withheld hes.deliveries ?_
  rintro _ ⟨⟩ h
  simp [he] at h

/-- The payload of an accepted reply failed the parser of its command. -/
def Unparsed (command : Command) (framing : Native.Framing) (r : Except Fault Bytes)
    (es : Trace Environment) : Prop :=
  ∃ payload e, r = .error (.error e) ∧ Replied framing 0x00 (deliveries es) ∧
    Native.Checked.checkParsed command.opcode command.header payload = .error e

/-- One command and its last reply agree, unless the accepted payload did not parse. -/
theorem ExecuteRun.told {command : Command} {r : Except Fault Bytes} {es : Trace Environment}
    (h : ExecuteRun o command card r card' es) (hpaired : command.Paired) :
    Told card.raw.framing r es ∨ Unparsed command card.raw.framing r es := by
  have hpaired := paired_secureRequest hpaired
  cases h with
  | refused he hes => exact .inl (told_untouched he hes)
  | removed _ he hes => exact .inl (told_untouched he hes)
  | failed _ _ h₀ hrun =>
    have htold := (hrun.told hpaired).quietly _ [] h₀.deliveries rfl
    rw [List.append_nil] at htold
    exact .inl htold
  | threw => exact .inl (.unknown rfl)
  | changed _ _ _ _ _ he => exact .inl (.unknown he)
  | unparsed _ _ h₀ hrun h₁ hparsed =>
    have htold := (hrun.told hpaired).quietly _ _ h₀.deliveries h₁.deliveries
    exact .inr ⟨_,_,rfl,htold.success _ rfl,hparsed⟩
  | done _ _ h₀ hrun h₁ _ => exact .inl ((hrun.told hpaired).quietly _ _ h₀.deliveries h₁.deliveries)

/-- The native session of the card authenticated the payload as the data of the reply. -/
inductive Authentic (card : Card) (es : Trace Environment) (payload : Bytes) : Prop
  | ev2 (session : Security.Ev2.Session) (hsession : card.ev2Session = some session)
      (response : Native.Raw.Response) (hanswered : Answered card.raw.framing response (deliveries es))
      (h : Ev2Authentic (session.reserve .awaitingResponse) response es payload)
  | standardAes (session : Security.StandardAes.Session) (hsession : card.standardAesSession = some session)
      (block : Bytes) (response : Native.Raw.Response)
      (hanswered : Answered card.raw.framing response (deliveries es))
      (h : AesAuthentic (session.chain block .awaitingResponse) response es payload)

/-- The session that is active reads the reply to a request. -/
def Reads (card : Card) (request : Request) : Prop :=
  card.hasNativeSession = true ∧ (request.responseMode ≠ .plain ∨ (card.ev2Session = none ∧ ¬Unread request))

theorem Authentic.mono {es es' : Trace Environment} {payload : Bytes} (h : Authentic card es payload)
    (hdeliveries : deliveries es' = deliveries es) (hsubset : ∀ event ∈ es, event ∈ es') :
    Authentic card es' payload := by
  cases h with
  | ev2 session hsession response hanswered h =>
    exact .ev2 session hsession response (hdeliveries ▸ hanswered) (h.mono hsubset)
  | standardAes session hsession block response hanswered h =>
    exact .standardAes session hsession block response (hdeliveries ▸ hanswered) (h.mono hsubset)

/-- A payload that the session reads is authenticated before it is returned. -/
theorem SecureRun.authentic {request : Request} {payload : Bytes} {es : Trace Environment}
    (h : SecureRun o card request (.ok payload) card' es) (hpaired : Paired request)
    (hreads : Reads card request) : Authentic card es payload := by
  cases h with
  | ev2 hsession hrun =>
    obtain ⟨wire,s₁,es₁,response,s₂,es₂,hprepared,hanswered,haccepted,hsubset⟩ :=
      hrun.accepted (fun _ _ _ h => h.cryptographic.deliveries) fun _ _ _ _ _ h => h.cryptographic.deliveries
    have hmode : request.responseMode ≠ .plain := by
      obtain hmode | ⟨hnone,_⟩ := hreads.2
      · exact hmode
      · rw [hsession] at hnone
        cases hnone
    have hauthentic := (haccepted.authentic hmode).mono hsubset
    have hrequest : request.requestMode ≠ .plain := by
      rcases hpaired with hpaired | ⟨_,hplain⟩
      · exact fun hplain => hmode (hpaired.mp hplain)
      · exact absurd hplain hmode
    have hawaited : awaited request = .awaitingResponse := if_neg hrequest
    rw [hprepared.reserved,hawaited] at hauthentic
    exact .ev2 _ hsession response hanswered hauthentic
  | standardAes hev2 hsession hrun =>
    obtain ⟨wire,s₁,es₁,response,s₂,es₂,hprepared,hanswered,haccepted,hsubset⟩ :=
      hrun.accepted (fun _ _ _ h => h.cryptographic.deliveries) fun _ _ _ _ _ h => h.cryptographic.deliveries
    have hread : ¬Unread request := by
      intro hunread
      obtain hmode | ⟨_,hread⟩ := hreads.2
      · exact hmode hunread.1
      · exact hread hunread
    have hauthentic := (haccepted.authentic hread).mono hsubset
    cases hprepared with
    | prepared hready wire block => exact .standardAes _ hsession block response hanswered hauthentic
  | unprotected hnative =>
    have hactive := hreads.1
    rw [hnative] at hactive
    cases hactive

/-- A payload that a command returns is authenticated if a session reads its reply. -/
theorem ExecuteRun.authentic {command : Command} {payload : Bytes} {es : Trace Environment}
    (h : ExecuteRun o command card (.ok payload) card' es) (hpaired : command.Paired)
    (hreads : Reads card (secureRequest command)) : Authentic card es payload := by
  cases h with
  | @done _ _ es₀ es es₁ _ _ h₀ hrun h₁ =>
    refine (hrun.authentic (paired_secureRequest hpaired) hreads).mono ?_ ?_
    · simp only [deliveries_append,h₀.deliveries,h₁.deliveries,List.nil_append,List.append_nil]
    · intro event hevent
      simp [hevent]

end Evidence
end DesfireSdk.Managed
