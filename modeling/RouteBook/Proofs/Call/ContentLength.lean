import RouteBook.Client.Build
import RouteBook.Proofs.Call.Recorded
import RouteBook.Proofs.Request.Fields
import RouteBook.Proofs.Request.Files

/-!
# The length of what is sent

A recorded request has one content-length header, and it is the number of the octets of the body
(`call_contentLength`). It is set together with the body (`under_ownHeaders`) and set again when a file
takes the place of the body (`under_withFileHeaders`). No other step writes a header of this name unless
the route allows it to callers, and on the wire it is the same (`under_plainHeaders`).

The body is the file, or it carries the payload (`Payload.Carried`): a text is its UTF-8, octets are
themselves, and a payload without a value is empty.
-/

namespace RouteBook

open Entries

/-! ## Payloads -/

/-- The octets that carry a payload. Those of a text are read back in UTF-8. -/
inductive Payload.Carried : Payload → List UInt8 → Prop
  | members {entries : Entries Value} {text : String} {octets : List UInt8}
    (written : Json.writeCompact (.map entries) = .ok text)
    (encodable : (Value.map entries).isEncodable = true)
    (encoded : Text.Utf8.decode octets = .ok text.toList) : Carried (.members entries) octets
  | octets (b : List UInt8) : Carried (.whole (.bytes b)) b
  | whole {v : Value} {text : String} {octets : List UInt8} (given : v.truthy = true)
    (noOctets : ∀ b, v ≠ .bytes b) (written : v.wireText = .ok text)
    (encodable : v.isEncodable = true) (encoded : Text.Utf8.decode octets = .ok text.toList) :
    Carried (.whole v) octets
  | nothing {v : Value} (empty : v.truthy = false) : Carried (.whole v) []
  | pairs {items : List String} {octets : List UInt8}
    (encoded : Text.Utf8.decode octets = .ok ("&".intercalate items).toList) :
    Carried (.pairs items) octets

theorem Payload.carried_of_bodyOf {p : Payload} {octets : List UInt8}
    (h : Outbound.bodyOf p = .ok octets) : p.Carried octets := by
  unfold Outbound.bodyOf at h
  split at h
  · obtain ⟨text, htext, rfl⟩ := map_eq_ok_iff.mp h
    obtain ⟨hwire, hencodable⟩ := Value.encodableText_eq_ok_iff.mp htext
    rw [Value.wireText_of_isContainer rfl] at hwire
    exact .members hwire hencodable (Text.Utf8.decode_ofString text)
  · obtain rfl := Except.ok.inj h
    exact .octets _
  · rename_i v hv
    obtain ⟨text, htext, rfl⟩ := map_eq_ok_iff.mp h
    obtain ⟨hwire, hencodable⟩ := Value.encodableText_eq_ok_iff.mp htext
    unfold Value.orElse at hwire hencodable
    cases htrue : v.truthy with
    | true =>
      rw [htrue, if_pos rfl] at hwire hencodable
      exact .whole htrue (fun b hb => hv b hb) hwire hencodable (Text.Utf8.decode_ofString text)
    | false =>
      rw [htrue, if_neg Bool.false_ne_true] at hwire
      obtain rfl : "" = text := Except.ok.inj hwire
      exact .nothing htrue
  · obtain rfl := Except.ok.inj h
    exact .pairs (Text.Utf8.decode_ofString _)

/-! ## Headers of a prepared request -/

/-- Credentials write no header but their own. -/
theorem Auth.under_applyTo {auth : Option Auth} {path path' name : String}
    {headers headers' : Entries Value} (hname : "authorization" ≠ name)
    (h : applyTo auth path headers = .ok (path', headers')) :
    headers'.under name = headers.under name := by
  rcases applyTo_headers h with rfl | ⟨v, rfl⟩
  · rfl
  · exact under_put_of_ne hname _ _

namespace Outbound

variable {config : Config} {env : Environment} {constants : Constants} {route : Route}
  {auth : Option Auth} {message : Message} {headers headers' : Entries Value} {name : String}

theorem under_ownHeaders {host : Value} {hasBody : Bool} {format : Format} {payload : Payload}
    {body : List UInt8} (h : ownHeaders host hasBody format payload = .ok (headers, body)) :
    headers.under "content-length" = [("content-length", countText body.length)] := by
  cases hasBody with
  | false =>
    obtain ⟨rfl, rfl⟩ := Prod.mk.inj (Except.ok.inj h)
    rfl
  | true =>
    obtain ⟨octets, -, h⟩ := bind_eq_ok_iff.mp h
    obtain ⟨type, -, h⟩ := bind_eq_ok_iff.mp h
    obtain ⟨rfl, rfl⟩ := Prod.mk.inj (Except.ok.inj h)
    rfl

theorem under_addAllowed {allowed : List String} {custom : Entries Value} (hname : name ∉ allowed)
    (h : addAllowed allowed headers custom = .ok headers') :
    headers'.under name = headers.under name := by
  obtain ⟨-, rfl⟩ := addAllowed_eq_ok_iff.mp h
  refine under_merge_of_not_mem ?_ headers
  rw [keys_folded, mem_foldedKeys_allowedOf_iff]
  exact fun hmem => hname hmem.1

theorem under_putDefault {other : String} (hne : other ≠ name) (v : Value) :
    (putDefault headers other v).under name = headers.under name := by
  unfold putDefault
  split_ifs
  · rfl
  · exact under_put_of_ne hne headers v

theorem under_addDefaults (hagent : "user-agent" ≠ name) (haccept : "accept" ≠ name) :
    (addDefaults config constants headers).under name = headers.under name := by
  unfold addDefaults
  dsimp only
  split_ifs
  · rw [under_putDefault haccept, under_putDefault hagent]
  · exact under_putDefault hagent _

/-- The length of a request that is prepared is that of its body. -/
theorem under_prepare {o : Outbound} {lines : List LogLine}
    (hallowed : "content-length" ∉ route.requestHeaders)
    (h : prepare config env constants route auth message = .ok (o, lines)) :
    o.headers.under "content-length" = [("content-length", countText o.body.length)] := by
  obtain ⟨a, -, ho, -⟩ := prepare_eq_ok_iff.mp h
  obtain ⟨p, hp, rfl⟩ := ofAssembly_eq_ok_iff.mp ho
  calc (addDefaults config constants p.headers).under "content-length"
      = p.headers.under "content-length" := under_addDefaults (by decide) (by decide)
    _ = p.authorizedHeaders.under "content-length" := under_addAllowed hallowed hp.headers
    _ = p.ownHeaders.under "content-length" := Auth.under_applyTo (by decide) hp.authorized
    _ = [("content-length", countText p.body.length)] := under_ownHeaders hp.own

end Outbound

theorem Site.under_withFileHeaders {o : Outbound} {v : Value}
    (h : o.headers.under "content-length" = [("content-length", v)]) (size : Nat) (name : String) :
    (withFileHeaders o size name).headers.under "content-length" =
      [("content-length", Outbound.countText size)] := by
  unfold withFileHeaders
  dsimp only
  rw [under_put_of_ne (by decide)]
  exact under_put_self h _

/-! ## Headers on the wire -/

namespace Wire

theorem asciiText_eq_ok {s t : String} (h : asciiText s = .ok t) : t = s := by
  unfold asciiText at h
  split at h
  · exact (Except.ok.inj h).symm
  · exact nomatch h

theorem headerText_eq_ok {v : Value} {t : String} (h : headerText v = .ok t) : v = .text t := by
  cases v with
  | text s => rw [asciiText_eq_ok h]
  | _ => exact nomatch h

theorem eq_map_of_texts {headers : Entries Value} {texts : Entries String}
    (h : headers.mapM (fun (name, v) => do pure (← asciiText name, ← headerText v)) = .ok texts) :
    headers = texts.map fun t => (t.1, Value.text t.2) := by
  induction mapM_eq_ok_iff.mp h with
  | nil => rfl
  | @cons header text headers texts hheader hrest ih =>
    obtain ⟨name, v⟩ := header
    obtain ⟨name', hname, hheader⟩ := bind_eq_ok_iff.mp hheader
    obtain ⟨t, hv, hheader⟩ := bind_eq_ok_iff.mp hheader
    obtain rfl := Except.ok.inj hheader
    rw [List.map_cons, ← ih (mapM_eq_ok_iff.mpr hrest), asciiText_eq_ok hname, headerText_eq_ok hv]

theorem under_plainHeaders {headers : Entries Value} {plain : Entries String} {name text : String}
    (hname : name ∉ connectionHeaders) (haccept : "accept" ≠ name)
    (h : plainHeaders headers = .ok plain) (hone : headers.under name = [(name, .text text)]) :
    plain.under name = [(name, text)] := by
  obtain ⟨texts, htexts, h⟩ := bind_eq_ok_iff.mp h
  have hown : Entries.under texts name = [(name, text)] := by
    rw [eq_map_of_texts htexts, under_map] at hone
    obtain ⟨t, ht, heq⟩ := List.map_eq_singleton_iff.mp hone
    obtain ⟨hkey, hvalue⟩ := Prod.mk.inj heq
    rw [ht, ← hkey, ← Value.text.inj hvalue]
  have hkept : (!connectionHeaders.contains name) = true := by simpa using hname
  have hall : Entries.under (if headers.has "accept" then texts else texts ++ [("accept", "*/*")])
      name = [(name, text)] := by
    split_ifs
    · exact hown
    · rw [under_append, hown, under, List.filter_cons_of_neg (by simpa using haccept)]
      rfl
  rw [← @under_filter _ (fun key => !connectionHeaders.contains key) name hkept] at hall
  obtain rfl := Except.ok.inj h
  exact List.perm_singleton.mp (hall ▸ (List.mergeSort_perm _ _).filter _)

theorem ofOutbound_eq_ok {o : Outbound} {octets : List UInt8} {w : WireRequest}
    (h : ofOutbound o octets = .ok w) : plainHeaders o.headers = .ok w.headers ∧ w.body = octets := by
  obtain ⟨timeout, -, h⟩ := bind_eq_ok_iff.mp h
  obtain ⟨text, -, h⟩ := bind_eq_ok_iff.mp h
  obtain ⟨address, -, h⟩ := bind_eq_ok_iff.mp h
  obtain ⟨headers, hheaders, h⟩ := bind_eq_ok_iff.mp h
  obtain rfl := Except.ok.inj h
  exact ⟨hheaders, rfl⟩

theorem contentLength_of_ofOutbound {o : Outbound} {octets : List UInt8} {w : WireRequest} {n : Nat}
    (h : ofOutbound o octets = .ok w)
    (hone : o.headers.under "content-length" = [("content-length", Outbound.countText n)]) :
    Entries.under w.headers "content-length" = [("content-length", toString n)] :=
  under_plainHeaders (by decide) (by decide) (ofOutbound_eq_ok h).1 hone

end Wire

/-! ## Recorded requests -/

namespace Site.Makes

variable {site : Site} {auth : Option Auth} {route : Route} {message : Message} {w : WireRequest}

theorem contentLength (hallowed : "content-length" ∉ route.requestHeaders)
    (h : site.Makes auth route message w) :
    Entries.under w.headers "content-length" = [("content-length", toString w.body.length)] := by
  cases h with
  | ownBody noFile prepared wire =>
    rw [(Wire.ofOutbound_eq_ok wire).2]
    exact Wire.contentLength_of_ofOutbound wire (Outbound.under_prepare hallowed prepared)
  | @fileBody o lines path place name size octets file prepared named placed sized read wire =>
    obtain rfl : size = octets.length :=
      Except.ok.inj (sized.symm.trans (Files.size_tidy_of_read read))
    rw [(Wire.ofOutbound_eq_ok wire).2]
    exact Wire.contentLength_of_ofOutbound wire
      (under_withFileHeaders (Outbound.under_prepare hallowed prepared) _ name)

theorem body_of_file (hfile : route.hasFileBody = true) (h : site.Makes auth route message w) :
    ∃ path : AnyText, message.value "filePath" = path.toValue ∧
      ∃ place, path.systemName? = some place ∧ site.files.find place = .ok (.file w.body) := by
  cases h with
  | ownBody noFile => exact Bool.noConfusion (hfile.symm.trans noFile)
  | @fileBody o lines path place name size octets file prepared named placed sized read wire =>
    obtain rfl : w.body = octets := (Wire.ofOutbound_eq_ok wire).2
    exact ⟨path, named, place, placed, Files.find_of_read read⟩

/-- The body of any other request carries its payload, and is empty for a call that has none. -/
theorem body_of_noFile (hfile : route.hasFileBody = false) (h : site.Makes auth route message w) :
    ∃ a, Outbound.assembled site.config site.constants route message = .ok a ∧
      (route.hasBody = true → a.payload.Carried w.body) ∧
      (route.hasBody = false → w.body = []) := by
  cases h with
  | fileBody file => exact Bool.noConfusion (file.symm.trans hfile)
  | @ownBody o lines noFile prepared wire =>
    obtain ⟨a, ha, ho, -⟩ := Outbound.prepare_eq_ok_iff.mp prepared
    rw [(Wire.ofOutbound_eq_ok wire).2]
    exact ⟨a, ha, fun hbody => Payload.carried_of_bodyOf (Outbound.bodyOf_of_ofAssembly hbody ho),
      fun hbody => Outbound.body_eq_nil hbody ho⟩

end Site.Makes

namespace Client

/-- **The length of what is sent.** A request of a call has one content-length header, the number of the
octets of its body, unless the route allows callers to set it. The body is the file at the path that the
checked message names. For a route without a file it carries the payload, and it is empty for a call that
has none. -/
theorem call_contentLength (client : Client) {e : Endpoint Implementation} {message : Value}
    {withCallback : Bool} {b : Behaviour} {w : WireRequest}
    (hallowed : "content-length" ∉ e.route.requestHeaders)
    (hsent : w ∈ (client.call e message withCallback b).requests) :
    Entries.under w.headers "content-length" = [("content-length", toString w.body.length)] ∧
      ∃ es, (Call.checked e.route message).1.entries = .ok es ∧
        (e.route.hasFileBody = true → ∃ path : AnyText, es.value "filePath" = path.toValue ∧
          ∃ place, path.systemName? = some place ∧
            client.site.files.find place = .ok (.file w.body)) ∧
        (e.route.hasFileBody = false → ∃ a,
          Outbound.assembled client.site.config client.site.constants e.route es = .ok a ∧
          (e.route.hasBody = true → a.payload.Carried w.body) ∧
          (e.route.hasBody = false → w.body = [])) := by
  obtain ⟨es, hes, hmakes⟩ := Call.makes_of_mem_requests hsent
  exact ⟨hmakes.contentLength hallowed, es, hes, fun hfile => hmakes.body_of_file hfile,
    fun hfile => hmakes.body_of_noFile hfile⟩

/-- A document with a letter beyond ASCII, octets that are no text, a call without a body, and a file that
is named from the root. -/
theorem call_contentLength_bodies :
    let route : Route :=
      { path := "items/put", space := "items", name := "put", url := .text "/items", method := "PUT",
        params := [("title", {})], host := .text "api.example.com" }
    let client : Client :=
      { site := ⟨.withoutProxy, [], {}, [("/srv/a.txt", some [195, 169, 10])]⟩, version := .null,
        policy := .asIs, table := ⟨[]⟩, ownsConnection := false }
    let requests (route : Route) (message : Message) : List WireRequest :=
      (client.call ⟨route, .forward⟩ (.map message) false (.answers (.ofOctets 200 [] []))).requests
    (∃ w, requests { route with requestFormat := .text "json" } [("title", .text "é")] = [w] ∧
      w.body = [123, 34, 116, 105, 116, 108, 101, 34, 58, 34, 195, 169, 34, 125] ∧
      Entries.under w.headers "content-length" = [("content-length", "14")]) ∧
    (∃ w, requests { route with requestFormat := .text "raw" } [("data", .bytes [0, 255])] = [w] ∧
      w.body = [0, 255] ∧ Entries.under w.headers "content-length" = [("content-length", "2")]) ∧
    (∃ w, requests { route with method := "GET" } [("title", .text "é")] = [w] ∧
      w.body = [] ∧ Entries.under w.headers "content-length" = [("content-length", "0")]) ∧
    ∃ w, requests { route with hasFileBody := true } [("filePath", .text "/srv/a.txt")] = [w] ∧
      w.body = [195, 169, 10] ∧
      Entries.under w.headers "content-length" = [("content-length", "3")] := by
  intro route client requests
  have hone {route : Route} {message : Message} {body : List UInt8} {length : String}
      (hallowed : "content-length" ∉ route.requestHeaders)
      (hbodies : (requests route message).map WireRequest.body = [body])
      (hlength : toString body.length = length) :
      ∃ w, requests route message = [w] ∧ w.body = body ∧
        Entries.under w.headers "content-length" = [("content-length", length)] := by
    obtain ⟨w, hw, rfl⟩ := List.map_eq_singleton_iff.mp hbodies
    have hsent : w ∈ requests route message := hw ▸ List.mem_singleton_self w
    rw [← hlength]
    exact ⟨w, hw, rfl, (call_contentLength client hallowed hsent).1⟩
  refine ⟨hone (by decide) (by decide +kernel) (by decide), hone (by decide) (by decide +kernel) rfl,
    hone (by decide) (by decide +kernel) rfl, hone (by decide) (by decide +kernel) rfl⟩

end Client

end RouteBook
