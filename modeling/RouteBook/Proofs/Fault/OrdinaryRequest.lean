import RouteBook.Client.Call
import RouteBook.Proofs.Fault.Ordinary
import RouteBook.Proofs.Request.Placement

/-!
# Ordinary faults of requests

Making a request from a message, putting it on the wire and reading the document of a response end
in ordinary faults (`assembled_ordinary`, `ofAssembly_ordinary`, `ofOutbound_ordinary`,
`ofResponse_ordinary`).
-/

namespace RouteBook

open FailsWithin

/-! ## Assembling -/

namespace Assembly

theorem step_ordinary (message : Message) (path : String) (a : Assembly) (param : String × Rule) :
    OrdinaryFaults (step message path a param) := by
  obtain ⟨b, hb⟩ := exists_step message path a param
  rw [hb]
  exact ok b

theorem urlText_ordinary (pathPrefix : Option String) (v : Value) :
    OrdinaryFaults (urlText pathPrefix v) := by
  unfold urlText
  split
  · exact ok _
  · exact error nofun
  · split <;> exact error nofun

end Assembly

namespace Outbound

theorem assembled_ordinary (config : Config) (constants : Constants) (route : Route)
    (message : Message) : OrdinaryFaults (assembled config constants route message) :=
  bind (Assembly.urlText_ordinary _ _) fun _ =>
    foldlM (fun a p _ => Assembly.step_ordinary _ _ a p) _

/-! ## Requests -/

theorem originText_ordinary (protocol host port : Value) :
    OrdinaryFaults (originText protocol host port) :=
  bind (Value.shown_ordinary _) fun _ => bind (Value.shown_ordinary _) fun _ =>
    bind (Value.shown_ordinary _) fun _ => pure _

theorem basePath_ordinary (config : Config) (url : String) :
    OrdinaryFaults (basePath config url) := by
  unfold basePath
  split
  · exact bind (Value.shown_ordinary _) fun _ => pure _
  · exact ok _

theorem ofText_ordinary (s : String) : OrdinaryFaults (Authority.ofText s) := by
  have hport (cs : List Char) : OrdinaryFaults (Authority.portOf? cs) := by
    unfold Authority.portOf?
    split
    · exact ok _
    · split
      · exact error (by rintro ⟨⟩)
      · dsimp only
        split
        · exact error (by rintro ⟨⟩)
        · exact ok _
  have hrest (scheme : String) (rest : List Char) :
      OrdinaryFaults (Authority.ofRest scheme rest) := by
    unfold Authority.ofRest
    dsimp only
    split
    · exact error (by rintro ⟨⟩)
    · exact bind (hport _) fun _ => pure _
  unfold Authority.ofText
  split <;> exact hrest _ _

theorem throughProxy_ordinary (proxy : Value) (m : Machine) (path : String) :
    OrdinaryFaults (throughProxy proxy m path) := by
  unfold throughProxy
  split
  · exact bind (originText_ordinary _ _ _) fun _ => bind (Value.asText_ordinary _) fun _ =>
      bind (ofText_ordinary _) fun _ => pure _
  · exact ok _

theorem ownHeaders_ordinary (host : Value) (hasBody : Bool) (format : Format) (payload : Payload) :
    OrdinaryFaults (ownHeaders host hasBody format payload) := by
  have hbody : OrdinaryFaults (bodyOf payload) := by
    unfold bodyOf
    split
    · exact map _ (Value.encodableText_ordinary _)
    · exact ok _
    · exact map _ (Value.encodableText_ordinary _)
    · exact ok _
  have htype : OrdinaryFaults (contentType format) := by
    unfold contentType
    split <;> first | exact ok _ | exact error nofun
  unfold ownHeaders
  split
  · exact bind hbody fun _ => bind htype fun _ => pure _
  · exact ok _

theorem applyTo_ordinary (auth : Option Auth) (path : String) (headers : Entries Value) :
    OrdinaryFaults (Auth.applyTo auth path headers) := by
  have hquery (a : Auth) : OrdinaryFaults a.oauthQuery := by
    unfold Auth.oauthQuery
    split
    · exact bind (Value.encoded_ordinary _) fun _ => pure _
    · exact bind (Value.encoded_ordinary _) fun _ => bind (Value.encoded_ordinary _) fun _ => pure _
  have hheader (a : Auth) : OrdinaryFaults a.authorization := by
    unfold Auth.authorization
    split
    · exact ok _
    · exact ok _
    · exact map _ (Value.shownAfter_ordinary _ _)
    · refine bind (Value.shown_ordinary _) fun _ => bind (Value.shown_ordinary _) fun _ => ?_
      split
      · exact error nofun
      · exact pure _
  unfold Auth.applyTo
  split
  · exact ok _
  · unfold Auth.apply
    split
    · exact bind (hquery _) fun _ => pure _
    · refine bind (hheader _) fun header => ?_
      cases header <;> exact pure _

theorem customHeaders_ordinary (message : Message) (config : Config) :
    OrdinaryFaults (customHeaders message config) := by
  unfold customHeaders
  dsimp only
  split
  · split
    · exact ok _
    · exact error nofun
  · exact ok _

theorem addAllowed_ordinary (allowed : List String) (headers custom : Entries Value) :
    OrdinaryFaults (addAllowed allowed headers custom) := by
  refine foldlM (fun acc header _ => ?_) headers
  obtain ⟨name, v⟩ := header
  dsimp only
  split
  · exact bind (Value.shown_ordinary v) fun _ => pure _
  · exact ok _

theorem ofAssembly_ordinary (config : Config) (env : Environment) (constants : Constants)
    (route : Route) (auth : Option Auth) (message : Message) (format : Format) (a : Assembly) :
    OrdinaryFaults (ofAssembly config env constants route auth message format a) := by
  unfold ofAssembly
  refine bind (basePath_ordinary _ _) fun path => ?_
  refine bind (throughProxy_ordinary _ _ _) fun machine => ?_
  refine bind (ownHeaders_ordinary _ _ _ _) fun own => ?_
  refine bind (applyTo_ordinary _ _ _) fun authorized => ?_
  refine bind (customHeaders_ordinary _ _) fun custom => ?_
  refine bind (addAllowed_ordinary _ _ _) fun headers => ?_
  exact bind (Value.toInt_ordinary _) fun port => pure _

end Outbound

/-! ## The wire -/

namespace Wire

theorem plainHost_ordinary (cs : List Char) : OrdinaryFaults (plainHost cs) := by
  unfold plainHost
  split
  · split
    · exact ok _
    · exact error nofun
  · split
    · split
      · split
        · exact ok _
        · exact error nofun
      · exact ok _
    · exact ok _

theorem plainPort_ordinary (scheme : String) (cs : List Char) :
    OrdinaryFaults (plainPort scheme cs) := by
  unfold plainPort
  split
  · exact ok _
  · split
    · exact error nofun
    · exact ok _

theorem readAddress_ordinary (text : String) : OrdinaryFaults (readAddress text) := by
  unfold readAddress
  dsimp only
  split
  · exact error nofun
  · split
    · exact bind (plainHost_ordinary _) fun _ => bind (plainPort_ordinary _ _) fun _ => pure _
    · exact pure _

theorem asciiText_ordinary (s : String) : OrdinaryFaults (asciiText s) := by
  unfold asciiText
  split
  · exact ok _
  · exact error nofun

theorem headerText_ordinary (v : Value) : OrdinaryFaults (headerText v) := by
  unfold headerText
  split
  · exact asciiText_ordinary _
  · exact error nofun
  · exact error nofun

theorem plainHeaders_ordinary (headers : Entries Value) :
    OrdinaryFaults (plainHeaders headers) := by
  refine bind (mapM fun header _ => ?_) fun _ => pure _
  exact bind (asciiText_ordinary _) fun _ => bind (headerText_ordinary _) fun _ => pure _

theorem seconds?_ordinary (v : Value) : OrdinaryFaults (seconds? v) := by
  unfold seconds?
  split
  · split
    · split
      · exact ok _
      · exact error nofun
    · exact ok _
    · exact ok _
    · exact error nofun
  · exact ok _

theorem ofOutbound_ordinary (o : Outbound) (body : List UInt8) :
    OrdinaryFaults (ofOutbound o body) := by
  unfold ofOutbound
  refine bind (seconds?_ordinary _) fun timeout => ?_
  refine bind (bind (Outbound.originText_ordinary _ _ _) fun _ => pure _) fun text => ?_
  refine bind (readAddress_ordinary _) fun address => ?_
  exact bind (plainHeaders_ordinary _) fun headers => pure _

end Wire

/-! ## Files and documents -/

theorem Site.filePath?_ordinary (o : Outbound) : OrdinaryFaults (Site.filePath? o) := by
  unfold Site.filePath?
  split
  · split
    · exact error (by rintro ⟨⟩)
    · split
      · exact error (by rintro ⟨⟩)
      · split
        · exact error (by rintro ⟨⟩)
        · exact ok _
  · exact ok _

theorem Site.requestLines_ordinary (o : Outbound) : OrdinaryFaults (Site.requestLines o) := by
  unfold Site.requestLines
  exact bind (Outbound.originText_ordinary _ _ _) fun _ =>
    bind (Value.quoted_ordinary _) fun _ => pure _

theorem Document.ofResponse_ordinary (r : Response) : OrdinaryFaults (Document.ofResponse r) := by
  have hread : OrdinaryFaults r.json :=
    fun f h => Fault.ordinary_of_isValueFault (r.isValueFault_of_json f h)
  unfold Document.ofResponse
  dsimp only
  split
  · exact pure _
  · exact bind hread fun _ => pure _

end RouteBook
