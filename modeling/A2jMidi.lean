import A2jMidi.Basic
import A2jMidi.Regex
import A2jMidi.Identifier
import A2jMidi.Profile
import A2jMidi.Matcher
import A2jMidi.Connect
import A2jMidi.Retrieve
import A2jMidi.Session
import A2jMidi.Lifecycle
import A2jMidi.Failure
import A2jMidi.Threads
import A2jMidi.Queue
import A2jMidi.Handles
import A2jMidi.System
import A2jMidi.Handler
import A2jMidi.Requests
