import HttpServer.AcceptLoop
import HttpServer.Address
import HttpServer.Address.Reading
import HttpServer.BindAddress
import HttpServer.Body.Chunked
import HttpServer.Body.Framing
import HttpServer.Bytes
import HttpServer.Bytes.Numeral
import HttpServer.Bytes.Utf8
import HttpServer.CommandLine
import HttpServer.CommandLine.Help
import HttpServer.CommandLine.Settings
import HttpServer.Config
import HttpServer.Config.Document
import HttpServer.Config.Load
import HttpServer.Config.OfDocument
import HttpServer.Config.ToDocument
import HttpServer.Config.Toml
import HttpServer.Config.Toml.Scalar
import HttpServer.Config.Toml.Text
import HttpServer.Config.Toml.Tree
import HttpServer.Config.Validation
import HttpServer.Connection
import HttpServer.Context
import HttpServer.Credentials
import HttpServer.Credentials.Base64
import HttpServer.Credentials.Certificate
import HttpServer.Credentials.Curve
import HttpServer.Credentials.Digest
import HttpServer.Credentials.Element
import HttpServer.Credentials.Pem
import HttpServer.Credentials.PrivateKey
import HttpServer.Credentials.Residue
import HttpServer.Credentials.RsaKey
import HttpServer.Credentials.TwistedCurve
import HttpServer.Diagnosis
import HttpServer.Fields
import HttpServer.Files
import HttpServer.Handoff
import HttpServer.Host
import HttpServer.HostName
import HttpServer.Invocation
import HttpServer.IoFailure
import HttpServer.KeepAlive
import HttpServer.Listener
import HttpServer.Log
import HttpServer.LogFilter
import HttpServer.Main
import HttpServer.Memory
import HttpServer.Metrics
import HttpServer.MetricsPage
import HttpServer.Network
import HttpServer.Outlet
import HttpServer.Path
import HttpServer.Pipeline
import HttpServer.Pipeline.Steps
import HttpServer.Program
import HttpServer.Proofs.Awaiting
import HttpServer.Proofs.ChunkScan
import HttpServer.Proofs.HeadScan
import HttpServer.ReadBuffer
import HttpServer.Reader
import HttpServer.Rehearsal
import HttpServer.Crowd
import HttpServer.Request
import HttpServer.Request.Decode
import HttpServer.Request.DecodeError
import HttpServer.Request.HeadLines
import HttpServer.Request.Target
import HttpServer.Response
import HttpServer.Response.Framing
import HttpServer.Scan
import HttpServer.Server
import HttpServer.Shutdown
import HttpServer.Status
import HttpServer.StatusPage
import HttpServer.Stream
import HttpServer.Succession
import HttpServer.Text.Alphanumeric
import HttpServer.Text.Blank
import HttpServer.Text.Pattern
import HttpServer.Text.Quoted
import HttpServer.Text.Unprintable
import HttpServer.Timeline
import HttpServer.Tracker
import HttpServer.Proofs.RequestReading
import HttpServer.Proofs.Segmentation
import HttpServer.Proofs.Session
import HttpServer.Proofs.Serving
import HttpServer.Proofs.Drain
import HttpServer.Proofs.FieldLines
import HttpServer.Proofs.SentRequest
import HttpServer.Proofs.WrittenNumbers
import HttpServer.Proofs.WrittenHead
import HttpServer.Proofs.WrittenBody
import HttpServer.Proofs.Pipelining
import HttpServer.Proofs.IdleWait
import HttpServer.Proofs.ChunkGrammar
import HttpServer.Proofs.ChunkedReading
import HttpServer.Proofs.HeadLimit
import HttpServer.Proofs.TransferCodings
import HttpServer.Proofs.RequestOctets
import HttpServer.Proofs.ContentLengths
import HttpServer.Proofs.Resumption
import HttpServer.Proofs.Departure
import HttpServer.Proofs.ReceivedResponses
import HttpServer.Proofs.Filling
import HttpServer.Proofs.InsertedLine
import HttpServer.Proofs.FramingAgreement
import HttpServer.Proofs.BufferGrowth
import HttpServer.Proofs.VastLengths
import HttpServer.Proofs.Alike
import HttpServer.Proofs.CrowdSteps
import HttpServer.Proofs.Isolation
import HttpServer.Proofs.Exchanges
import HttpServer.Proofs.DeclaredLength
import HttpServer.Proofs.KeptConnections
import HttpServer.Proofs.BrokenWrites
import HttpServer.Proofs.StageRecords
import HttpServer.Proofs.Attachment
import HttpServer.Proofs.SuccessorArguments
import HttpServer.Proofs.Tallies
import HttpServer.Proofs.FilterPasses
import HttpServer.Proofs.ListenerSource
import HttpServer.Proofs.ReadingEnds
import HttpServer.Proofs.RaisedLimits
import HttpServer.Proofs.ReportedProblems
import HttpServer.Proofs.ListElements
import HttpServer.Proofs.SentLines
import HttpServer.Proofs.KeepAliveLayout
import HttpServer.Proofs.StopRequests
