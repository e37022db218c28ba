import Fabricd.Json

/-!
# The mail, key/value, broker and identity drivers

What the remaining backends ask of `lettre`, `redis`, `amqprs`, `async_nats` and
`reqwest`. Each handle is the number its driver answered with.
-/

namespace Fabricd

namespace Smtp

abbrev TransportId := Nat

inductive TlsMode where
  | starttls
  | wrapper
  | none
  deriving DecidableEq

/-- A mailbox as `lettre` parsed it: the text it renders to and the address domain. -/
structure Mailbox where
  address : String
  domain : String
  deriving DecidableEq

inductive Body where
  | alternativePlainHtml (text html : String)
  | html (html : String)
  | plain (text : String)
  deriving DecidableEq

/-- A message under construction; the recipient lists grow by appending. -/
structure Message where
  sender : Mailbox
  to' : List Mailbox
  cc : List Mailbox
  bcc : List Mailbox
  replyTo : Option Mailbox
  subject : String
  body : Body
  deriving DecidableEq

/-- The envelope recipients: the To, Cc and Bcc mailboxes in this order. -/
def Message.envelope (message : Message) : List Mailbox :=
  message.to' ++ message.cc ++ message.bcc

/-- The settings a transport is built with. -/
structure TransportSettings where
  tls : TlsMode
  host : String
  port : UInt16
  timeoutMs : UInt64
  credentials : Option (String × String)
  deriving DecidableEq

structure SmtpError where
  transient : Bool
  permanent : Bool
  message : String
  deriving DecidableEq, Inhabited

structure Response where
  positive : Bool
  firstLine : Option String
  deriving DecidableEq

inductive Op where
  | relay (tls : TlsMode) (host : String)
  | buildTransport (settings : TransportSettings)
  | send (transport : TransportId) (message : Message)
  deriving DecidableEq

def Op.Ans : Op → Type
  | relay _ _ => Except String Unit
  | buildTransport _ => TransportId
  | send _ _ => Except SmtpError Response

def Op.transport : Op → Option TransportId
  | relay _ _ | buildTransport _ => none
  | send transport _ => some transport

end Smtp

namespace Redis

abbrev ConnId := Nat

structure RedisErr where
  timeout : Bool
  io : Bool
  message : String
  deriving DecidableEq, Inhabited

inductive Op where
  | openUrl (url : String)
  | getConnection (url : String)
  | setReadTimeout (conn : ConnId) (ms : UInt64)
  | setWriteTimeout (conn : ConnId) (ms : UInt64)
  | lock (conn : ConnId)
  | get (conn : ConnId) (key : String)
  | set (conn : ConnId) (key value : String)
  | setEx (conn : ConnId) (key value : String) (ttl : UInt64)
  | del (conn : ConnId) (key : String)
  | incr (conn : ConnId) (key : String) (delta : Int64)
  | expire (conn : ConnId) (key : String) (seconds : Int64)
  deriving DecidableEq

def Op.Ans : Op → Type
  | openUrl _ => Except RedisErr Unit
  | getConnection _ => Except RedisErr ConnId
  | setReadTimeout _ _ => Except RedisErr Unit
  | setWriteTimeout _ _ => Except RedisErr Unit
  | lock _ => Except String Unit
  | get _ _ => Except RedisErr (Option String)
  | set _ _ _ => Except RedisErr Unit
  | setEx _ _ _ _ => Except RedisErr Unit
  | del _ _ => Except RedisErr Int64
  | incr _ _ _ => Except RedisErr Int64
  | expire _ _ _ => Except RedisErr Bool

def Op.conn : Op → Option ConnId
  | openUrl _ | getConnection _ => none
  | setReadTimeout conn _ | setWriteTimeout conn _ | lock conn | get conn _ | set conn _ _
  | setEx conn _ _ _ | del conn _ | incr conn _ _ | expire conn _ _ => some conn

end Redis

namespace Broker

abbrev ConnId := Nat
abbrev ChannelId := Nat

/-- `OpenConnectionArguments`, with the TLS adaptor's CA path when TLS is on. -/
structure RabbitArgs where
  host : String
  port : UInt16
  username : String
  password : String
  vhost : String
  tls : Option (Option String)
  deriving DecidableEq

inductive NatsAuth where
  | none
  | userAndPassword (username password : String)
  | token (token : String)
  deriving DecidableEq

/-- `async_nats::ConnectOptions` and the address. -/
structure NatsArgs where
  address : String
  requestTimeoutMs : UInt64
  auth : NatsAuth
  requireTls : Bool
  rootCertificates : Option String
  deriving DecidableEq

inductive Op where
  | buildRuntime
  | tlsAdaptor (ca : Option String) (host : String)
  | rabbitOpen (args : RabbitArgs)
  | openChannel (conn : ConnId)
  | basicPublish (channel : ChannelId) (exchange key : String) (content : List UInt8)
  | closeChannel (channel : ChannelId)
  | closeConnection (conn : ConnId)
  | natsConnect (args : NatsArgs)
  | natsPublish (conn : ConnId) (subject : String) (content : List UInt8)
  | natsFlush (conn : ConnId)
  | natsRequest (conn : ConnId) (subject : String) (content : List UInt8)
  deriving DecidableEq

def Op.Ans : Op → Type
  | buildRuntime => Except String Unit
  | tlsAdaptor _ _ => Except String Unit
  | rabbitOpen _ => Except String ConnId
  | openChannel _ => Except String ChannelId
  | basicPublish _ _ _ _ => Except String Unit
  | closeChannel _ => Unit
  | closeConnection _ => Unit
  | natsConnect _ => Except String ConnId
  | natsPublish _ _ _ => Except String Unit
  | natsFlush _ => Except String Unit
  | natsRequest _ _ _ => Except String (List UInt8)

end Broker

namespace Http

abbrev ClientId := Nat

inductive Request where
  | get (url : String) (bearer : Option String)
  | postForm (url clientId clientSecret body : String)
  deriving DecidableEq

/-- `send` answers with the transport error's text, or the status and the body read. -/
inductive Op where
  | buildClient (timeoutMs : UInt64)
  | send (client : ClientId) (request : Request)
  deriving DecidableEq

def Op.Ans : Op → Type
  | buildClient _ => Except String ClientId
  | send _ _ => Except String (UInt16 × Except String String)

def Op.client : Op → Option ClientId
  | buildClient _ => none
  | send client _ => some client

end Http

end Fabricd
