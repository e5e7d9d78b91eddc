import CoworkService.Basic
import CoworkService.Json
import CoworkService.Json.Reader
import CoworkService.Json.Value
import CoworkService.Json.Scanner
import CoworkService.Json.Unmarshal
import CoworkService.Pipe.Protocol
import CoworkService.Pipe.Handlers
import CoworkService.Pipe.Request
import CoworkService.Pipe.Server
import CoworkService.Pipe.Params
import CoworkService.Process.Events
import CoworkService.Pipe.Writers
import CoworkService.Pipe.Subscription
import CoworkService.Native.Tracker
import CoworkService.Native.Signals
import CoworkService.Native.Kill
import CoworkService.Native.Stdin
import CoworkService.Vm.SendCommand
import CoworkService.Vm.Calls
import CoworkService.Process.Tracker
import CoworkService.Replace
import CoworkService.Native.Remap
import CoworkService.Native.Scanner
import CoworkService.Native.Lifecycle
import CoworkService.Native.Environment
import CoworkService.Vm.Listener
import CoworkService.Vm.Manager
import CoworkService.Pipe.Client
