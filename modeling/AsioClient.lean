import AsioClient.FirstOccurrence
import AsioClient.SplitPieces
import AsioClient.CollapsedRuns
import AsioClient.BufferedStream
import AsioClient.ImperativeRuns
import AsioClient.ImperativeTriples
import AsioClient.ProgramRefinement
import AsioClient.CppRuntime
import AsioClient.RequestHeaderBuilder
import AsioClient.HttpContent
import AsioClient.SchemePrefix
import AsioClient.PrintableText
import AsioClient.SocketWorld
import AsioClient.ClientProgram
import AsioClient.HttpClient
import AsioClient.ClientRuns
import AsioClient.ConnectRun
import AsioClient.RequestLines
import AsioClient.UrlRouting
import AsioClient.RequestShape
import AsioClient.UrlGrammar
import AsioClient.SchemedRequest
import AsioClient.HostContacted
import AsioClient.ResponseStream
import AsioClient.BufferSizes
import AsioClient.RequestSending
import AsioClient.TwinDownloads
import AsioClient.SocketLedger
import AsioClient.FileAccess
import AsioClient.FileSessions
import AsioClient.SocketOps
import AsioClient.AsioSockets
import AsioClient.LayerRefinement
import AsioClient.KernelScript
import AsioClient.AsioRefinement
import AsioClient.AsioRuns
import AsioClient.ClientSession
import AsioClient.AsioOperations
import AsioClient.SessionRefinement
import AsioClient.CallHistory
import AsioClient.CallEnds
import AsioClient.CallOutcomes
import AsioClient.PublicCalls
import AsioClient.UnsetSocket
import AsioClient.HeldDescriptors
import AsioClient.CallTraffic
import AsioClient.ConsoleMain
